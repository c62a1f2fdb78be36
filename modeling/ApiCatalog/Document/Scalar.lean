import ApiCatalog.Json.Basic
import ApiCatalog.Document.Schema

/-! # Scalars of a document

A scalar is what a document holds at its leaves. Some document formats fix the type of a scalar by
the way it is written; others leave text, which is read as the type that is asked for.
-/

namespace ApiCatalog

/-- How a text scalar is written. Only a plain one may stand for anything but text. -/
inductive ScalarStyle where
  | plain
  | literal
  | quoted
  deriving DecidableEq, Repr

inductive Scalar where
  /-- A literal of a format that types its scalars. -/
  | null
  | bool (b : Bool)
  | num (n : JsonNumber)
  | str (s : String)
  /-- A literal that is well formed and denotes nothing: a number beyond all doubles, or a text
  with half a surrogate pair. -/
  | unreadable
  /-- Text that is read as the type that is asked for, with the type it was tagged with. -/
  | text (content : String) (style : ScalarStyle) (tag : Option CoreType)
  deriving Repr

namespace Scalar

def string? : Scalar → Option String
  | str s => some s
  | text content _ _ => some content
  | _ => none

/-- Whether a text may be read as a value of the given type: it is plain, or it is a literal block
tagged so. -/
def mayBe (type : CoreType) : ScalarStyle → Option CoreType → Bool
  | .plain, _ => true
  | .literal, some tag => tag == type
  | _, _ => false

def bool? : Scalar → Option Bool
  | bool b => some b
  | text content style tag => if mayBe .bool style tag then CoreSchema.bool? content else none
  | _ => none

def int? : Scalar → Option Int
  | num (.int n) => if n < wordSize 63 then some n else none
  | text content style tag => if mayBe .int style tag then CoreSchema.signed? content else none
  | _ => none

def nat? : Scalar → Option Nat
  | num (.int n) => if 0 ≤ n then some n.toNat else none
  | text content style tag => if mayBe .int style tag then CoreSchema.unsigned? content else none
  | _ => none

/-- Whether an optional field with this scalar holds a value; `none` if it can be neither. -/
def isPresent? : Scalar → Option Bool
  | null => some false
  | text content .plain none => some (!(content.isEmpty || CoreSchema.isNull content))
  | text content .plain (some .null) => if CoreSchema.isNull content then some false else none
  | _ => some true

/-- Whether a list or a mapping may be left empty by this scalar. -/
def isVoid : Scalar → Bool
  | text content .plain _ => content.isEmpty
  | _ => false

def isUnit : Scalar → Bool
  | null => true
  | text content .plain none => content.isEmpty || CoreSchema.isNull content
  | text content .plain (some .null) => CoreSchema.isNull content
  | _ => false

/-- The scalar as a free JSON value: a text takes the type of its tag, or else, if it is plain, the
type its spelling suggests. -/
def json? : Scalar → Option Json
  | null => some .null
  | bool b => some (.bool b)
  | num n => some (.num n)
  | str s => some (.str s)
  | unreadable => none
  | text content .plain none => CoreSchema.json? content
  | text content _ (some .bool) => (CoreSchema.bool? content).map .bool
  | text content _ (some .int) => CoreSchema.int? content >>= fun n => n.map Json.int
  | text content _ (some .float) => (CoreSchema.float? content).map CoreSchema.floatJson
  | text content _ (some .null) => if CoreSchema.isNull content then some .null else none
  | text content _ _ => some (.str content)

/-- Whether a text takes the type of a number and is not finite. -/
def isNotFinite : Scalar → Bool
  | text content .plain none => (CoreSchema.float? content).any Option.isNone
  | text content _ (some .float) => (CoreSchema.float? content).any Option.isNone
  | _ => false

end Scalar

end ApiCatalog
