import ApiCatalog.Json.Basic

/-! # Names on the wire

The enumerations of the catalog are written by name in documents and answers.
-/

namespace ApiCatalog

/-- An enumeration whose values are written by name. -/
class Wire (α : Type) where
  values : List α
  name : α → String

namespace Wire

def ofName? {α : Type} [Wire α] (s : String) : Option α := (values : List α).find? (name · == s)

def toJson {α : Type} [Wire α] (x : α) : Json := .str (name x)

end Wire

namespace Json

def ofOption {α : Type} (toJson : α → Json) : Option α → Json
  | some x => toJson x
  | none => .null

def orNull (value : Option Json) : Json := value.getD .null

def ofString? (s : Option String) : Json := ofOption .str s

def ofStrings (names : List String) : Json := .arr (names.map .str)

end Json

end ApiCatalog
