import ApiCatalog.Decimal.Double
import ApiCatalog.Ordered

/-! # JSON values

A JSON value keeps integers apart from other numbers. The fields of an object are sorted by key,
and no key occurs twice.
-/

namespace ApiCatalog

/-- A JSON number: an integer, or a number that was written with a fraction or an exponent, or is
too large for an integer. -/
inductive JsonNumber where
  | int (n : Int)
  | float (x : Double)
  deriving DecidableEq, Repr

inductive Json where
  | null
  | bool (b : Bool)
  | num (n : JsonNumber)
  | str (s : String)
  | arr (items : List Json)
  | obj (fields : List (String × Json))
  deriving Repr

namespace JsonNumber

/-- Equality as JSON numbers: an integer never equals a number with a fraction part. -/
def same : JsonNumber → JsonNumber → Bool
  | int m, int n => m == n
  | float x, float y => x.same y
  | _, _ => false

/-- The number as a double, an integer being rounded. -/
def toDouble? : JsonNumber → Option Double
  | int n => Double.ofInt? n
  | float x => some x

end JsonNumber

namespace Json

/-- The object with the given fields, in any order; the last field of a key counts. -/
def ofFields (entries : List (String × Json)) : Json := .obj (Fields.ofList entries)

def int (n : Int) : Json := .num (.int n)

def field? (key : String) : Json → Option Json
  | obj fields => fields.lookup key
  | _ => none

mutual

def depth : Json → Nat
  | arr items => depthOfItems items + 1
  | obj fields => depthOfFields fields + 1
  | _ => 0

def depthOfItems : List Json → Nat
  | [] => 0
  | item :: items => max (depth item) (depthOfItems items)

def depthOfFields : List (String × Json) → Nat
  | [] => 0
  | (_, value) :: fields => max (depth value) (depthOfFields fields)

end

mutual

/-- Equality of JSON values, numbers compared by `JsonNumber.same`. -/
def same : Json → Json → Bool
  | null, null => true
  | bool a, bool b => a == b
  | num m, num n => m.same n
  | str s, str t => s == t
  | arr xs, arr ys => sameItems xs ys
  | obj xs, obj ys => sameFields xs ys
  | _, _ => false

def sameItems : List Json → List Json → Bool
  | [], [] => true
  | x :: xs, y :: ys => same x y && sameItems xs ys
  | _, _ => false

def sameFields : List (String × Json) → List (String × Json) → Bool
  | [], [] => true
  | (k, x) :: xs, (k', y) :: ys => k == k' && same x y && sameFields xs ys
  | _, _ => false

end

end Json

end ApiCatalog
