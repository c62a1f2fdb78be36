import ApiCatalog.Catalog
import ApiCatalog.Definition.Basic

/-! # Importing members

A definition asks for members by reference. Each one is resolved to a user first, and then every
user that does not hold the role asked for is given it. The primary owner keeps that role, and
nobody else takes it while there is one.
-/

namespace ApiCatalog

/-- A user with the role that a definition asks for. -/
structure PlannedMember where
  user : Member
  role : RoleName
  deriving DecidableEq, Repr

namespace MemberEntry

def resolve (identities : Identities) (entry : MemberEntry) : Except Error PlannedMember :=
  match identities.resolve? entry.reference entry.source with
  | some user => .ok ⟨user.member, ⟨.api, entry.role⟩⟩
  | none => .error (.unresolvableMember entry.reference)

end MemberEntry

namespace PlannedMember

def checkRoles (store : Store) : List PlannedMember → Except Error Unit
  | [] => .ok ()
  | m :: ms => if store.hasRole m.role then checkRoles store ms else .error (.missingRole m.role)

end PlannedMember

/-- The users that member entries stand for. All are resolved before a role is looked up. -/
def planMembers (catalog : Catalog) (entries : List MemberEntry) :
    Except Error (List PlannedMember) := do
  let planned ← entries.mapM (·.resolve catalog.identities)
  PlannedMember.checkRoles catalog.store planned
  return planned

/-- What is done about one member. -/
inductive MemberStep where
  /-- The member holds the role already. -/
  | keep
  | assign (member : PlannedMember) (kind : ChangeKind)
  deriving DecidableEq, Repr

namespace MemberStep

/-- What is done about members, each of them another user. `held` tells the roles at the start, and
`owned` whether there is a primary owner. -/
def plan (held : String → Option String) : Bool → List PlannedMember → List MemberStep
  | _, [] => []
  | owned, m :: ms =>
    match held m.user.id with
    | some role =>
      if role = m.role.name then keep :: plan held owned ms
      else if role = Role.primaryOwner then plan held owned ms
      else if m.role.name = Role.primaryOwner then
        if owned then plan held owned ms else assign m .update :: plan held true ms
      else assign m .update :: plan held owned ms
    | none =>
      if m.role.name = Role.primaryOwner then
        if owned then plan held owned ms else assign m .create :: plan held true ms
      else assign m .create :: plan held owned ms

def run (reference : Reference) : MemberStep → CatalogM Unit
  | keep => CatalogM.count (.skips .member) 1
  | assign m kind => do
    let _ ← CatalogM.onStore (Store.giveRole reference m.user m.role)
    CatalogM.count (.changes .member kind) 1

end MemberStep

/-- What is done about the members that a definition lists for an API. Of several entries for one
user the first counts. -/
def memberSteps (store : Store) (apiId : String) (members : List PlannedMember) :
    List MemberStep :=
  let reference := Reference.api apiId
  let owners := store.membershipsWith reference ⟨.api, Role.primaryOwner⟩
  MemberStep.plan (store.roleOf? reference .api) (!owners.isEmpty) (firsts (·.user.id) members)

def importMembers (apiId : String) (members : List PlannedMember) : CatalogM Unit := do
  let steps ← CatalogM.fromStore (memberSteps · apiId members)
  steps.forM (·.run (.api apiId))

end ApiCatalog
