import ApiCatalog.Definition.Reader
import ApiCatalog.Export.Version
import ApiCatalog.Import.Groups
import ApiCatalog.Import.Members
import ApiCatalog.Import.Pages
import ApiCatalog.Import.Plans

/-! # Importing definitions

An import brings a new or an existing API into the state that a definition describes, and deletes
nothing. Whatever can be refused is looked at before the first write.
-/

namespace ApiCatalog

/-- An API as a definition describes it, in the groups it was in and in further ones. -/
def Api.describedBy (api : Api) (definition : Definition) (groupIds : List String) : Api :=
  { api with
    details := definition.details
    groups := Names.insertAll groupIds api.groups }.noteExportVersion ExportVersion.default.name

/-- Store the record of an API: the one that is there, or a new one. -/
def saveApi (existing : Option Api) (definition : Definition) (groupIds : List String) :
    CatalogM Api := do
  match existing with
  | some api =>
    let api ← CatalogM.onStore (Store.updateApi (api.describedBy definition groupIds))
    CatalogM.count (.changes .api .update) 1
    return api
  | none =>
    let id ← CatalogM.fromStore (·.freshApiId)
    let blank : Api := { id, details := definition.details }
    let api ← CatalogM.onStore (Store.createApi (blank.describedBy definition groupIds))
    CatalogM.count (.changes .api .create) 1
    return api

def assignOwner (apiId username : String) : CatalogM Unit := do
  let _ ← CatalogM.onStore <|
    Store.giveRole (.api apiId) { id := username, reference := some username }
      ⟨.api, Role.primaryOwner⟩
  CatalogM.count (.changes .member .create) 1

/-- Bring an API into the state that a definition describes. The acting user becomes the owner of
a new API. -/
def reconcile (existing : Option Api) (definition : Definition) (actingUser : Option String) :
    CatalogM Api := do
  let members ← CatalogM.ofResult (planMembers (← get) definition.members)
  let groupIds ← importGroups definition.groups
  let api ← saveApi existing definition groupIds
  if existing.isNone then
    match actingUser with
    | some username => assignOwner api.id username
    | none => pure ()
  importMembers api.id members
  importPages api.id actingUser definition.pages
  importPlans api.id definition.plans
  return api

def existingApi? (apiId : Option String) : CatalogM (Option Api) := do
  match apiId with
  | none => return none
  | some id =>
    match ← CatalogM.fromStore (·.api? id) with
    | some api => return some api
    | none => throw (.apiNotFound id)

/-- Import what was read as a definition, into the API with the given id or into a new one. -/
def importParsed (apiId : Option String) (parsed : Except DefinitionFault Definition)
    (actingUser : Option String) : CatalogM Api :=
  CatalogM.counting .imports do
    let existing ← existingApi? apiId
    match parsed with
    | .ok definition => reconcile existing definition actingUser
    | .error fault => throw fault.toError

/-- Import the definition in a payload, into the API with the given id or into a new one. -/
def importDefinition (apiId : Option String) (payload : List UInt8)
    (actingUser : Option String) : CatalogM Api :=
  importParsed apiId (Definition.parse payload) actingUser

end ApiCatalog
