import ApiCatalog.Json.Basic
import ApiCatalog.Word

/-! # The core schema

How plain text in a document reads as null, a truth value, an integer or another number.
-/

namespace ApiCatalog

/-- The types that a tag may give to a scalar. -/
inductive CoreType where
  | bool
  | int
  | float
  | null
  | other
  deriving DecidableEq, Repr

/-- The natural number that digits of a base stand for, if there is at least one digit. -/
def digitsValue? (base : Nat) (cs : List Char) : Option Nat :=
  if cs.isEmpty then none
  else cs.foldlM (fun value c => do
    let digit ←
      if '0' ≤ c ∧ c ≤ '9' then some (c.toNat - '0'.toNat)
      else if 'a' ≤ c ∧ c ≤ 'z' then some (c.toNat - 'a'.toNat + 10)
      else if 'A' ≤ c ∧ c ≤ 'Z' then some (c.toNat - 'A'.toNat + 10)
      else none
    if digit < base then some (value * base + digit) else none) 0

namespace CoreSchema

def isNull (s : String) : Bool := s == "null" || s == "Null" || s == "NULL" || s == "~"

def bool? (s : String) : Option Bool :=
  if s == "true" || s == "True" || s == "TRUE" then some true
  else if s == "false" || s == "False" || s == "FALSE" then some false
  else none

def isDigit (c : Char) : Bool := '0' ≤ c && c ≤ '9'

def dropSign : List Char → List Char
  | '+' :: cs => cs
  | '-' :: cs => cs
  | cs => cs

def startsSigned : List Char → Bool
  | '+' :: _ => true
  | '-' :: _ => true
  | _ => false

/-- Digits with a leading zero are text and not a number. -/
def isPaddedNumber (cs : List Char) : Bool :=
  match dropSign cs with
  | '0' :: c :: rest => (c :: rest).all isDigit
  | _ => false

/-- The digits after the sign of a number and the mark of its base. -/
def radix? : List Char → Option (Nat × List Char)
  | '0' :: 'x' :: cs => some (16, cs)
  | '0' :: 'o' :: cs => some (8, cs)
  | '0' :: 'b' :: cs => some (2, cs)
  | _ => none

/-- A number without a sign, below the bound. -/
def magnitude? (bound : Nat) (cs : List Char) : Option Nat :=
  let marked := (radix? cs).bind fun (base, digits) =>
    (digitsValue? base digits).filter (· < bound)
  marked <|> ((digitsValue? 10 cs).filter (· < bound))

/-- A natural number below the bound, with an optional plus sign. -/
def natBelow? (bound : Nat) (s : String) : Option Nat :=
  let cs := s.toList
  let unsigned := match cs with
    | '+' :: rest => rest
    | _ => cs
  if startsSigned unsigned || isPaddedNumber cs then none else magnitude? bound unsigned

/-- A negative integer from `-bound` on. -/
def negative? (bound : Nat) (s : String) : Option Int :=
  match s.toList with
  | '-' :: cs =>
    if startsSigned cs || isPaddedNumber cs then none
    else (magnitude? (bound + 1) cs).map fun n => -(n : Int)
  | _ => none

def unsigned? (s : String) : Option Nat := natBelow? (wordSize 64) s

def signed? (s : String) : Option Int :=
  (natBelow? (wordSize 63) s).map (fun n => (n : Int)) <|> negative? (wordSize 63) s

/-- An integer of at most 128 bits; `some none` if it has no place among the integers of 64 bits,
signed or unsigned. -/
def int? (s : String) : Option (Option Int) :=
  match natBelow? (wordSize 128) s <&> (fun n => (n : Int)) <|> negative? (wordSize 127) s with
  | some n => some (if -(wordSize 63 : Int) ≤ n ∧ n < wordSize 64 then some n else none)
  | none => none

def spanDigits (cs : List Char) : List Char × List Char := cs.span isDigit

/-- The decimal number `digits * 10 ^ exponent` with its sign, spelled with an optional fraction
and an optional exponent. -/
def decimal? (cs : List Char) : Option (Bool × Nat × Int) := do
  let negative := cs.head? == some '-'
  let (whole, rest) := spanDigits (dropSign cs)
  let (fraction, rest) := match rest with
    | '.' :: more => spanDigits more
    | _ => ([], rest)
  let digits ← digitsValue? 10 (whole ++ fraction)
  let exponent ← match rest with
    | [] => some (0 : Int)
    | e :: more =>
      if e == 'e' || e == 'E' then
        (digitsValue? 10 (dropSign more)).map fun n =>
          if more.head? == some '-' then -(n : Int) else n
      else none
  return (negative, digits, exponent - fraction.length)

/-- A number with a fraction or exponent; `some none` for the infinities and for what is no
number. -/
def float? (s : String) : Option (Option Double) :=
  let cs := s.toList
  let unsigned := match cs with
    | '+' :: rest => rest
    | _ => cs
  if cs.head? == some '+' && startsSigned unsigned then none
  else
    let rest := String.ofList unsigned
    if rest == ".inf" || rest == ".Inf" || rest == ".INF" then some none
    else if s == "-.inf" || s == "-.Inf" || s == "-.INF" then some none
    else if s == ".nan" || s == ".NaN" || s == ".NAN" then some none
    else do
      let (negative, digits, exponent) ← decimal? unsigned
      let x ← Double.ofDecimal? negative digits exponent
      return some x

/-- What is no finite number is null in a JSON value. -/
def floatJson : Option Double → Json
  | some x => .num (.float x)
  | none => .null

/-- A plain text as a free JSON value; `none` for an integer out of range. -/
def json? (s : String) : Option Json :=
  if s.isEmpty || isNull s then some .null
  else match bool? s with
    | some b => some (.bool b)
    | none =>
      match int? s with
      | some n => n.map Json.int
      | none =>
        if isPaddedNumber s.toList then some (.str s)
        else match float? s with
          | some x => some (floatJson x)
          | none => some (.str s)

end CoreSchema

end ApiCatalog
