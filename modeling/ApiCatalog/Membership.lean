import ApiCatalog.Role

/-! # Memberships

A membership ties a user to a reference, with at most one role per scope.
-/

namespace ApiCatalog

/-- What members are attached to. -/
structure Reference where
  type : ReferenceType
  id : String
  deriving DecidableEq, Repr

namespace Reference

def api (id : String) : Reference := ⟨.api, id⟩

def group (id : String) : Reference := ⟨.group, id⟩

/-- The reference that carries the roles of an environment-wide scope. -/
def environment? (scope : RoleScope) : Option Reference :=
  scope.defaultReferenceType?.map fun type => ⟨type, "DEFAULT"⟩

end Reference

/-- The user side of a membership: an id, the name the user is known by outside, and the identity
source the user comes from. -/
structure Member where
  id : String
  reference : Option String := none
  source : Option String := none
  deriving DecidableEq, Repr

/-- The names of the roles that a member holds, at most one per scope. -/
structure HeldRoles where
  management : Option String := none
  portal : Option String := none
  api : Option String := none
  application : Option String := none
  deriving DecidableEq, Repr

namespace HeldRoles

def get? (roles : HeldRoles) : RoleScope → Option String
  | .management => roles.management
  | .portal => roles.portal
  | .api => roles.api
  | .application => roles.application

/-- Hold a role, in place of another one of its scope. -/
def give (roles : HeldRoles) (role : RoleName) : HeldRoles :=
  match role.scope with
  | .management => { roles with management := some role.name }
  | .portal => { roles with portal := some role.name }
  | .api => { roles with api := some role.name }
  | .application => { roles with application := some role.name }

def toList (roles : HeldRoles) : List RoleName :=
  [RoleScope.management, .portal, .api, .application].filterMap fun scope =>
    (roles.get? scope).map (⟨scope, ·⟩)

@[simp] theorem get?_give (roles : HeldRoles) (role : RoleName) (scope : RoleScope) :
    (roles.give role).get? scope =
      if scope = role.scope then some role.name else roles.get? scope := by
  rcases role with ⟨s, n⟩
  cases s <;> cases scope <;> rfl

end HeldRoles

structure Membership where
  reference : Reference
  user : Member
  roles : HeldRoles
  deriving DecidableEq, Repr

namespace Membership

def role? (m : Membership) (scope : RoleScope) : Option String := m.roles.get? scope

/-- Take over what is newly known of the user. -/
def identify (m : Membership) (user : Member) : Membership :=
  { m with user :=
      { m.user with
        reference := user.reference.or m.user.reference
        source := user.source.or m.user.source } }

def toJson (m : Membership) : Json :=
  .ofFields
    [("user_id", .str m.user.id), ("reference_type", Wire.toJson m.reference.type),
      ("reference_id", .str m.reference.id),
      ("roles", .ofFields (m.roles.toList.map fun role => (role.scope.name, .str role.name))),
      ("user_reference", .ofString? m.user.reference), ("user_source", .ofString? m.user.source)]

end Membership

inductive MemberType where
  | user
  | group
  deriving DecidableEq, Repr

instance : Wire MemberType where
  values := [.user, .group]
  name
    | .user => "USER"
    | .group => "GROUP"

/-- A membership seen from one scope. -/
structure ScopedMember where
  user : Member
  role : String
  type : MemberType
  deriving DecidableEq, Repr

namespace ScopedMember

/-- The membership as a scope shows it, if it holds a role there. -/
def ofMembership? (scope : RoleScope) (m : Membership) : Option ScopedMember :=
  (m.role? scope).map fun role => ⟨m.user, role, .user⟩

/-- The name a member is listed by: the outside reference if it is known, else the id. -/
def label (m : ScopedMember) : String := m.user.reference.getD m.user.id

def toJson (m : ScopedMember) : Json :=
  .ofFields
    [("id", .str m.user.id), ("reference", .ofString? m.user.reference),
      ("source", .ofString? m.user.source), ("display_name", .str m.label), ("email", .null),
      ("role", .str m.role), ("member_type", Wire.toJson m.type), ("permissions", .obj [])]

end ScopedMember

end ApiCatalog
