import ApiCatalog.Document.Tree
import ApiCatalog.Wire

/-! # Records in documents

Reading a tree as a record with known fields, and its fields as values of given types. Unknown
fields are passed over; a known field that occurs twice is refused.
-/

namespace ApiCatalog

/-- A field of a record: the names it may be written under, the first being its own, and whether a
record that is written as a list may end before it. -/
structure FieldSpec where
  names : List String
  mayBeLeftOut : Bool

namespace FieldSpec

def own (field : FieldSpec) : String := field.names.headD ""

/-- A field that a record written as a list has to hold. -/
def needed (name : String) : FieldSpec := ⟨[name], false⟩

def defaulted (name : String) : FieldSpec := ⟨[name], true⟩

end FieldSpec

/-- The fields of a record that a document holds, under their own names. -/
abbrev Record := List (String × Tree)

namespace Record

/-- The field that a key stands for: a name, or the number of the field where the document types
its keys. `none` where the key is of no such type. -/
def fieldOfKey? (specs : List FieldSpec) (key : Tree) : Option (Option FieldSpec) :=
  match key.untagged with
  | .scalar (.num (.int n)) => if 0 ≤ n then some specs[n.toNat]? else none
  | .scalar s => s.string?.map fun name => specs.find? (·.names.contains name)
  | _ => none

def ofEntries? (specs : List FieldSpec) : List (Tree × Tree) → Option Record
  | [] => some []
  | (key, value) :: entries => do
    let field ← fieldOfKey? specs key
    let record ← ofEntries? specs entries
    match field with
    | none => some record
    | some field =>
      if (record.lookup field.own).isSome then none else some ((field.own, value) :: record)

/-- The fields of a record written as the list of its values. -/
def ofItems? : List FieldSpec → List Tree → Option Record
  | [], [] => some []
  | [], _ :: _ => none
  | specs, [] => if specs.all (·.mayBeLeftOut) then some [] else none
  | field :: specs, item :: items => (ofItems? specs items).map ((field.own, item) :: ·)

end Record

namespace Tree

def record? (specs : List FieldSpec) (t : Tree) : Option Record :=
  match t.untagged with
  | map entries => Record.ofEntries? specs entries
  | list true items => Record.ofItems? specs items
  | scalar s => if s.isVoid then some [] else none
  | _ => none

def items? (t : Tree) : Option (List Tree) :=
  match t.untagged with
  | list _ items => some items
  | scalar s => if s.isVoid then some [] else none
  | _ => none

def entries? (t : Tree) : Option (List (Tree × Tree)) :=
  match t.untagged with
  | map entries => some entries
  | scalar s => if s.isVoid then some [] else none
  | _ => none

/-- Whether an optional field with this tree holds a value; `none` if it can be neither. -/
def isPresent? : Tree → Option Bool
  | scalar s => s.isPresent?
  | _ => some true

def bool? (t : Tree) : Option Bool :=
  match t.untagged with
  | scalar s => s.bool?
  | _ => none

def int32? (t : Tree) : Option Int :=
  match t.untagged with
  | scalar s => s.int?.filter fun n => -(wordSize 31 : Int) ≤ n ∧ n < wordSize 31
  | _ => none

def nat16? (t : Tree) : Option Nat :=
  match t.untagged with
  | scalar s => s.nat?.filter (· < wordSize 16)
  | _ => none

def listOf? {α : Type} (read : Tree → Option α) (t : Tree) : Option (List α) :=
  t.items?.bind (·.mapM read)

def strings? (t : Tree) : Option (List String) := t.listOf? string?

/-- A set of texts, as its sorted list. -/
def names? (t : Tree) : Option (List String) := t.strings?.map Names.ofList

/-- A mapping from texts, sorted; of several values for one key the last counts. -/
def fieldsOf? {α : Type} (read : Tree → Option α) (t : Tree) : Option (List (String × α)) := do
  let entries ← t.entries?
  let fields ← entries.mapM fun (key, value) => do
    return (← key.string?, ← read value)
  return Fields.ofList fields

def isUnit (t : Tree) : Bool :=
  match t with
  | scalar s => s.isUnit
  | _ => false

/-- The name of a value of an enumeration: a text, a tag of the document's own on an empty value,
or the one key of an object whose value is null. -/
def variant? : Tree → Option String
  | scalar s => s.string?
  | tagged name content => if content.isUnit then some name else none
  | map [(scalar (.str name), value)] => if value.isUnit then some name else none
  | _ => none

def wire? {α : Type} [Wire α] (t : Tree) : Option α := t.variant?.bind Wire.ofName?

end Tree

namespace Record

/-- A field that may be absent or null. -/
def optional? {α : Type} (record : Record) (name : String) (read : Tree → Option α) :
    Option (Option α) :=
  match record.lookup name with
  | none => some none
  | some t =>
    match t.isPresent? with
    | none => none
    | some false => some none
    | some true => (read t).map some

/-- A field that takes a default value when it is absent or null. -/
def nullable? {α : Type} (record : Record) (name : String) (read : Tree → Option α) (default : α) :
    Option α :=
  (record.optional? name read).map (·.getD default)

/-- A field that takes a default value only when it is absent. -/
def withDefault? {α : Type} (record : Record) (name : String) (read : Tree → Option α)
    (default : α) : Option α :=
  match record.lookup name with
  | none => some default
  | some t => read t

def needed? {α : Type} (record : Record) (name : String) (read : Tree → Option α) : Option α :=
  (record.lookup name).bind read

end Record

end ApiCatalog
