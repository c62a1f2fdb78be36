import ApiCatalog.Document.Record

/-! # Extents

How far a reader looks into a document. What it does not look at is of no account: it may be of any
type and of any size.
-/

namespace ApiCatalog

inductive Extent where
  /-- The reader looks at everything. -/
  | whole
  /-- The reader looks at each item of a list as far as `item` tells. -/
  | listOf (item : Extent)
  /-- The reader looks at the fields of a record and passes over unknown ones. Fields that are not
  looked at as a whole have an extent in `inner`. -/
  | record (fields : List FieldSpec) (inner : List (String × Extent))

namespace Extent

def ofItem : Extent → Extent
  | listOf item => item
  | _ => whole

/-- The extent of the value of a key, if the reader looks at it at all. -/
def ofKey? (key : Tree) : Extent → Option Extent
  | record fields inner =>
    match Record.fieldOfKey? fields key with
    | some (some field) => some ((inner.lookup field.own).getD whole)
    | some none => none
    | none => some whole
  | _ => some whole

end Extent

end ApiCatalog
