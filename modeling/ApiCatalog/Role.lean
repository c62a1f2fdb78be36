import ApiCatalog.Wire

/-! # Roles

A role has a name within a scope, and members hold it on a reference: an API, an application, a
group, or the whole environment.
-/

namespace ApiCatalog

inductive ReferenceType where
  | api
  | application
  | group
  | management
  | portal
  deriving DecidableEq, Repr

instance : Wire ReferenceType where
  values := [.api, .application, .group, .management, .portal]
  name
    | .api => "API"
    | .application => "APPLICATION"
    | .group => "GROUP"
    | .management => "MANAGEMENT"
    | .portal => "PORTAL"

inductive RoleScope where
  | management
  | portal
  | api
  | application
  deriving DecidableEq, Repr

namespace RoleScope

def name : RoleScope → String
  | management => "MANAGEMENT"
  | portal => "PORTAL"
  | api => "API"
  | application => "APPLICATION"

instance : Wire RoleScope where
  values := [.management, .portal, .api, .application]
  name := name

/-- The type of the reference that carries the roles of an environment-wide scope. -/
def defaultReferenceType? : RoleScope → Option ReferenceType
  | management => some .management
  | portal => some .portal
  | api => none
  | application => none

end RoleScope

structure RoleName where
  scope : RoleScope
  name : String
  deriving DecidableEq, Repr

structure Role where
  scope : RoleScope
  name : String
  description : Option String := none
  /-- Given to new members of the scope when nothing else is asked for. -/
  isDefault : Bool := false
  /-- Built in. -/
  isSystem : Bool := false
  deriving DecidableEq, Repr

namespace Role

def primaryOwner : String := "PRIMARY_OWNER"

def roleName (role : Role) : RoleName := ⟨role.scope, role.name⟩

end Role

namespace RoleName

def toJson (role : RoleName) : Json :=
  .ofFields [("scope", Wire.toJson role.scope), ("name", .str role.name)]

end RoleName

def Role.toJson (role : Role) : Json :=
  .ofFields
    [("scope", Wire.toJson role.scope), ("name", .str role.name),
      ("description", .ofString? role.description), ("default_role", .bool role.isDefault),
      ("system", .bool role.isSystem)]

end ApiCatalog
