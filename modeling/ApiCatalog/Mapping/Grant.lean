import ApiCatalog.Error
import ApiCatalog.Text.Blank
import ApiCatalog.Text.Case

/-! # Role grants

A role that a mapping grants is written `SCOPE:ROLE`. Only the roles of the environment-wide scopes
can be granted.
-/

namespace ApiCatalog

/-- The scope that a text names, in any case of its ASCII letters. -/
def RoleScope.parse (text : String) : Except Error RoleScope :=
  let name := Text.toAsciiUpper (Text.trim text)
  match Wire.ofName? name with
  | some scope => .ok scope
  | none => .error (.configuration s!"Unknown role scope '{name}'")

def RoleScope.isGrantable : RoleScope → Bool
  | management => true
  | portal => true
  | api => false
  | application => false

namespace RoleName

/-- The role that a text grants. The name of the role is written in upper case. -/
def parseGrant (text : String) : Except Error RoleName :=
  match text.toList.span (· != ':') with
  | (_, []) =>
    .error (.configuration s!"Role mapping '{text}' must be of the form SCOPE:ROLE")
  | (before, _ :: after) => do
    let scope ← RoleScope.parse (String.ofList before)
    if !scope.isGrantable then
      throw (.configuration <| s!"Role mapping '{text}' uses scope {scope.name} " ++
        "(only MANAGEMENT and PORTAL are allowed)")
    let role := Text.trim (String.ofList after)
    if role.isEmpty then
      throw (.configuration s!"Role mapping '{text}' has an empty role name")
    return ⟨scope, Text.toUpper role⟩

end RoleName

end ApiCatalog
