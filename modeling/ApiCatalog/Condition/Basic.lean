import ApiCatalog.Json.Basic
import ApiCatalog.Document.Schema

/-! # Conditions on profiles

A condition compares parts of a profile with literals and joins the comparisons by the logical
connectives. Parts that a profile does not have are null.
-/

namespace ApiCatalog

/-- The position that a path segment denotes in a list: decimal digits, with an optional plus
sign, of a number of 64 bits. -/
def indexOfSegment? (segment : String) : Option Nat :=
  let digits := match segment.toList with
    | '+' :: rest => rest
    | cs => cs
  (digitsValue? 10 digits).filter (· < wordSize 64)

namespace Json

def step? (segment : String) : Json → Option Json
  | obj fields => fields.lookup segment
  | arr items => (indexOfSegment? segment).bind (items[·]?)
  | _ => none

/-- The part of a value that a path leads to, or null where the path leaves the value. -/
def follow (value : Json) : List String → Json
  | [] => value
  | segment :: path =>
    match value.step? segment with
    | some part => part.follow path
    | none => null

/-- Equality of JSON values, where two numbers at the top are compared as doubles. -/
def looselyEqual (x y : Json) : Bool :=
  match x, y with
  | num m, num n =>
    match m.toDouble?, n.toDouble? with
    | some a, some b => a.same b
    | _, _ => m.same n
  | _, _ => x.same y

end Json

inductive Operand where
  | literal (value : Json)
  /-- A part of the profile; the empty path is the whole profile. -/
  | profile (path : List String)
  deriving Repr

def Operand.resolve (profile : Json) : Operand → Json
  | literal value => value
  | .profile path => profile.follow path

inductive Relation where
  | equal
  | unequal
  deriving DecidableEq, Repr

inductive Formula where
  | or (left right : Formula)
  | and (left right : Formula)
  | not (inner : Formula)
  | compare (left : Operand) (relation : Relation) (right : Operand)
  /-- An operand by itself, which holds when it is true. -/
  | holds (operand : Operand)
  deriving Repr

namespace Formula

def eval (profile : Json) : Formula → Bool
  | or left right => left.eval profile || right.eval profile
  | and left right => left.eval profile && right.eval profile
  | not inner => !inner.eval profile
  | compare left relation right =>
    let equal := (left.resolve profile).looselyEqual (right.resolve profile)
    match relation with
    | .equal => equal
    | .unequal => !equal
  | holds operand => (operand.resolve profile).same (.bool true)

end Formula

/-- A compiled condition, with the text it was compiled from. -/
structure Condition where
  source : String
  formula : Formula
  deriving Repr

def Condition.evaluate (condition : Condition) (profile : Json) : Bool :=
  condition.formula.eval profile

end ApiCatalog
