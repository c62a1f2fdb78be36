import ApiCatalog.Catalog
import ApiCatalog.Export.Document

/-! # Exporting APIs

An API is exported in the version that is noted for it, or in one that the caller asks for, among
the versions that are registered.
-/

namespace ApiCatalog

/-- The versions that are registered when nothing else is said. -/
def ExportVersion.registered : List ExportVersion := [.default, .v1_15]

/-- The first registered version that is noted for an API. -/
def selectVersion (registered : List ExportVersion) (api : Api) : Except Error ExportVersion :=
  match registered.find? fun version => api.exportVersion? == some version.name with
  | some version => .ok version
  | none => .error (.noSerializer (api.exportVersion?.getD "<none>"))

/-- Export an API in the version that is noted for it. -/
def exportNoted (registered : List ExportVersion) (excluded : List ExportSection) (api : Api) :
    CatalogM Json := do
  let version ← CatalogM.ofResult (selectVersion registered api)
  let document ← CatalogM.fromStore (exportDocument · version excluded api)
  CatalogM.count (.exports version) 1
  return document

/-- Export an API in a version, whatever is noted for it. -/
def exportAs (registered : List ExportVersion) (version : ExportVersion)
    (excluded : List ExportSection) (api : Api) : CatalogM Json :=
  exportNoted registered excluded (api.noteExportVersion version.name)

/-- Export an API in the version that is noted for it, or in the given one if none is. -/
def exportPreferring (registered : List ExportVersion) (version : ExportVersion)
    (excluded : List ExportSection) (api : Api) : CatalogM Json :=
  if api.exportVersion?.isSome then exportNoted registered excluded api
  else exportAs registered version excluded api

end ApiCatalog
