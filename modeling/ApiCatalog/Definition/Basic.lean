import ApiCatalog.Api
import ApiCatalog.Page
import ApiCatalog.Plan
import ApiCatalog.Text.Utf8

/-! # Definitions

A definition is the state that one import gives to an API: its own fields, and the members, pages,
plans and groups it asks for.
-/

namespace ApiCatalog

/-- A member that a definition asks for, by a reference that an identity provider resolves. -/
structure MemberEntry where
  reference : String
  source : Option String := none
  /-- The name of the role in the scope of APIs. -/
  role : String
  deriving DecidableEq, Repr

structure Definition where
  details : ApiDetails
  members : List MemberEntry := []
  pages : List PageEntry := []
  plans : List PlanEntry := []
  /-- Names of groups. -/
  groups : List String := []
  deriving Repr

/-- The fields that no definition goes without; entries are counted from zero. -/
inductive RequiredField where
  | name
  | version
  | memberReference (index : Nat)
  | memberRole (index : Nat)
  | pageName (index : Nat)
  | planName (index : Nat)
  deriving DecidableEq, Repr

def RequiredField.path : RequiredField → String
  | name => "name"
  | version => "version"
  | memberReference i => s!"members[{i}].reference"
  | memberRole i => s!"members[{i}].role"
  | pageName i => s!"pages[{i}].name"
  | planName i => s!"plans[{i}].name"

inductive DefinitionFault where
  | notUtf8 (fault : Text.Utf8Fault)
  | empty
  /-- The text is no document, or its fields are not of the types they have to be of. -/
  | unreadable
  | missing (field : RequiredField)
  deriving DecidableEq, Repr

end ApiCatalog
