import ApiCatalog.Catalog

/-! # Importing groups

A definition names groups. A group that is not there yet is created.
-/

namespace ApiCatalog

/-- The group with a name, which is created if there is none. -/
def ensureGroup (name : String) : CatalogM Group := do
  match ← CatalogM.fromStore (·.groupNamed? name) with
  | some group => return group
  | none =>
    let group ← CatalogM.onStore (Store.createGroup name)
    CatalogM.count (.changes .group .create) 1
    return group

/-- The ids of the groups with the given names, sorted. -/
def importGroups : List String → CatalogM (List String)
  | [] => return []
  | name :: names => do
    let group ← ensureGroup name
    let ids ← importGroups names
    return Names.insert group.id ids

end ApiCatalog
