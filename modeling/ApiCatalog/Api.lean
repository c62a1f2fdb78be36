import ApiCatalog.Wire

/-! # APIs

The record of an API. Its members, pages and plans are stored apart and point back at it.
-/

namespace ApiCatalog

/-- Who sees an API in the portal. -/
inductive Visibility where
  | everyone
  | membersOnly
  deriving DecidableEq, Repr

instance : Wire Visibility where
  values := [.everyone, .membersOnly]
  name
    | .everyone => "PUBLIC"
    | .membersOnly => "PRIVATE"

/-- The fields of an API that a definition decides. -/
structure ApiDetails where
  name : String
  version : String
  description : Option String := none
  visibility : Visibility := .membersOnly
  tags : List String := []
  picture : Option String := none
  proxy : Option Json := none
  paths : List (String × Json) := []
  services : Option Json := none
  resources : List Json := []
  properties : Option Json := none
  views : List String := []
  labels : List String := []
  pathMappings : List String := []
  responseTemplates : Option Json := none
  deriving Repr

namespace ApiDetails

def fields (details : ApiDetails) : List (String × Json) :=
  [("name", .str details.name), ("version", .str details.version),
    ("description", .ofString? details.description),
    ("visibility", Wire.toJson details.visibility), ("tags", .ofStrings details.tags),
    ("picture", .ofString? details.picture), ("proxy", .orNull details.proxy),
    ("paths", .obj details.paths), ("services", .orNull details.services),
    ("resources", .arr details.resources), ("properties", .orNull details.properties),
    ("views", .ofStrings details.views), ("labels", .ofStrings details.labels),
    ("path_mappings", .ofStrings details.pathMappings),
    ("response_templates", .orNull details.responseTemplates)]

end ApiDetails

structure Api where
  id : String
  details : ApiDetails
  /-- The ids of the groups the API belongs to, sorted. -/
  groups : List String := []
  /-- Notes that are never shown, sorted by key. -/
  metadata : List (String × String) := []
  /-- When the record was created, in the caller's unit of time. -/
  createdAt : Nat := 0
  deriving Repr

namespace Api

/-- The key of the note that holds the export version of an API. -/
def exportVersionKey : String := "exportVersion"

def exportVersion? (api : Api) : Option String := api.metadata.lookup exportVersionKey

def noteExportVersion (api : Api) (version : String) : Api :=
  { api with metadata := Fields.insert exportVersionKey version api.metadata }

def toJson (api : Api) : Json :=
  .ofFields
    (("id", .str api.id) :: ("groups", .ofStrings api.groups) :: api.details.fields)

end Api

end ApiCatalog
