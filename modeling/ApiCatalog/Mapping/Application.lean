import ApiCatalog.Catalog
import ApiCatalog.Mapping.Rules

/-! # Applying mappings

A user whose profile fulfils the conditions of a mapping becomes a member of groups, with the
default roles there, and is given roles for the whole environment. Whatever can be refused is
looked at before the first write.
-/

namespace ApiCatalog

structure MappingOutcome where
  groups : List Group
  roles : List RoleName
  membershipsApplied : Nat
  deriving DecidableEq, Repr

/-- A role to give, with the reference it is held on. -/
structure Assignment where
  reference : Reference
  role : RoleName
  deriving DecidableEq, Repr

namespace Assignment

/-- The default roles of APIs and applications in groups. -/
def inGroups (store : Store) (groups : List Group) : List Assignment :=
  groups.flatMap fun group =>
    (store.defaultRoles [.api, .application]).map fun role => ⟨.group group.id, role.roleName⟩

/-- Roles for the whole environment. Other roles are passed over. -/
def inEnvironment (roles : List RoleName) : List Assignment :=
  roles.filterMap fun role => (Reference.environment? role.scope).map (⟨·, role⟩)

def run (user : Member) (assignment : Assignment) : CatalogM Unit := do
  let _ ← CatalogM.onStore (Store.giveRole assignment.reference user assignment.role)

end Assignment

namespace Mapping

def findGroups (store : Store) : List String → Except Error (List Group)
  | [] => .ok []
  | name :: names =>
    match store.groupNamed? name with
    | some group => (findGroups store names).map (group :: ·)
    | none => .error (.groupNotFound name)

def checkRoles (store : Store) : List RoleName → Except Error Unit
  | [] => .ok ()
  | role :: roles =>
    if store.hasRole role then checkRoles store roles else .error (.missingRole role)

def apply (mapping : Mapping) (user : Member) (profile : Json) : CatalogM MappingOutcome := do
  let store ← CatalogM.fromStore id
  let roles := mapping.rolesFor profile
  let groups ← CatalogM.ofResult (findGroups store (mapping.groupsFor profile))
  CatalogM.ofResult (checkRoles store roles)
  let assignments := Assignment.inGroups store groups ++ Assignment.inEnvironment roles
  assignments.forM (·.run user)
  CatalogM.count .mappedGroups groups.length
  CatalogM.count .mappedRoles roles.length
  return ⟨groups, roles, assignments.length⟩

end Mapping

end ApiCatalog
