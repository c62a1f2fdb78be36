import ApiCatalog.Document.Tree

/-! # Reading JSON

The grammar of JSON text. An integer keeps its value if it fits 64 bits; any other number is a
double. A literal that denotes no value is still well formed, and counts as unreadable.
-/

namespace ApiCatalog

namespace Json.Reader

def isSpace (c : Char) : Bool := c == ' ' || c == '\n' || c == '\t' || c == '\r'

def dropSpace (cs : List Char) : List Char := cs.dropWhile isSpace

def isDigit (c : Char) : Bool := '0' ≤ c && c ≤ '9'

def digit (c : Char) : Nat := c.toNat - '0'.toNat

/-- The digits of a number, collected while they fit 64 bits. -/
structure Significand where
  value : Nat
  exponent : Int
  full : Bool

/-- Add a digit before the point: one that does not fit leaves its place to the exponent. -/
def Significand.addWhole (s : Significand) (c : Char) : Significand :=
  if s.full || wordSize 64 ≤ s.value * 10 + digit c then ⟨s.value, s.exponent + 1, true⟩
  else ⟨s.value * 10 + digit c, s.exponent, false⟩

/-- Add a digit after the point: one that does not fit is dropped, and so are all after it. -/
def Significand.addFraction (s : Significand) (c : Char) : Significand :=
  if s.full || wordSize 64 ≤ s.value * 10 + digit c then ⟨s.value, s.exponent, true⟩
  else ⟨s.value * 10 + digit c, s.exponent - 1, false⟩

/-- Scale a double by a power of ten: one multiplication or division by a rounded power, after as
many divisions by `10 ^ 308` as the exponent needs. -/
def scaleByTen (x : Double) (exponent : Int) : Nat → Option Double
  | 0 => some x
  | fuel + 1 =>
    if x.isZero then some x
    else if 308 < exponent then none
    else if exponent < -308 then do
      let divisor ← Double.ofDecimal? false 1 308
      let x' ← x.div? divisor
      scaleByTen x' (exponent + 308) fuel
    else do
      let power ← Double.ofDecimal? false 1 exponent.natAbs
      if 0 ≤ exponent then x.mul? power else x.div? power

/-- The double that a significand with an exponent stands for. -/
def toDouble? (negative : Bool) (s : Significand) (exponent : Int) : Option Double := do
  let x ← Double.ofInt? s.value
  let x ← scaleByTen x (s.exponent + exponent) 8
  return { x with negative }

def numberScalar (n : Option JsonNumber) : Scalar :=
  match n with
  | some n => .num n
  | none => .unreadable

/-- An integer literal: the negative zero, and what does not fit 64 bits, are doubles. -/
def integer (negative : Bool) (s : Significand) : Scalar :=
  if s.full then numberScalar ((toDouble? negative s 0).map .float)
  else if negative then
    if s.value = 0 ∨ wordSize 63 < s.value then numberScalar ((toDouble? negative s 0).map .float)
    else .num (.int (-(s.value : Int)))
  else .num (.int s.value)

/-- An exponent after its mark: a sign and digits. -/
def exponent? (cs : List Char) : Option (Int × List Char) :=
  let (negative, rest) := match cs with
    | '-' :: rest => (true, rest)
    | '+' :: rest => (false, rest)
    | _ => (false, cs)
  let (digits, rest') := rest.span isDigit
  if digits.isEmpty then none
  else
    let value : Int := digits.foldl (fun n c => n * 10 + digit c) 0
    some (if negative then -value else value, rest')

def exponentMark? : List Char → Option (List Char)
  | c :: rest => if c == 'e' || c == 'E' then some rest else none
  | [] => none

def afterDigits (negative isInteger : Bool) (s : Significand) (cs : List Char) :
    Option (Scalar × List Char) :=
  match exponentMark? cs with
  | some rest =>
    (exponent? rest).map fun (e, rest') =>
      (numberScalar ((toDouble? negative s e).map .float), rest')
  | none =>
    let n := if isInteger then integer negative s
      else numberScalar ((toDouble? negative s 0).map .float)
    some (n, cs)

def number (negative : Bool) (cs : List Char) : Option (Scalar × List Char) :=
  let (whole, rest) := cs.span isDigit
  if whole.isEmpty || (whole.head? == some '0' && 1 < whole.length) then none
  else
    let s := whole.foldl Significand.addWhole ⟨0, 0, false⟩
    match rest with
    | '.' :: more =>
      let (fraction, rest') := more.span isDigit
      if fraction.isEmpty then none
      else
        let s := fraction.foldl Significand.addFraction { s with full := false }
        afterDigits negative false s rest'
    | _ => afterDigits negative true s rest

/-- A piece of a string: a character, or a unit of UTF-16 written as an escape. -/
inductive Piece where
  | char (c : Char)
  | unit (n : Nat)

def hexUnit? (cs : List Char) : Option (Nat × List Char) :=
  if cs.length < 4 then none else (digitsValue? 16 (cs.take 4)).map fun n => (n, cs.drop 4)

/-- The pieces of a string after its opening quote. -/
def pieces : Nat → List Char → Option (List Piece × List Char)
  | 0, _ => none
  | fuel + 1, cs =>
    let next (piece : Piece) (rest : List Char) : Option (List Piece × List Char) :=
      (pieces fuel rest).map fun (ps, rest') => (piece :: ps, rest')
    match cs with
    | [] => none
    | '"' :: rest => some ([], rest)
    | '\\' :: '"' :: rest => next (.char '"') rest
    | '\\' :: '\\' :: rest => next (.char '\\') rest
    | '\\' :: '/' :: rest => next (.char '/') rest
    | '\\' :: 'b' :: rest => next (.char '\x08') rest
    | '\\' :: 'f' :: rest => next (.char '\x0c') rest
    | '\\' :: 'n' :: rest => next (.char '\n') rest
    | '\\' :: 'r' :: rest => next (.char '\r') rest
    | '\\' :: 't' :: rest => next (.char '\t') rest
    | '\\' :: 'u' :: rest => (hexUnit? rest).bind fun (n, rest') => next (.unit n) rest'
    | '\\' :: _ => none
    | c :: rest => if c.toNat < 0x20 then none else next (.char c) rest

/-- The text that pieces stand for, unless a surrogate has no partner. -/
def join? : List Piece → Option (List Char)
  | [] => some []
  | .char c :: ps => (join? ps).map (c :: ·)
  | .unit n :: ps =>
    if n < 0xd800 ∨ 0xdfff < n then (join? ps).map (Char.ofNat n :: ·)
    else if 0xdbff < n then none
    else match ps with
      | .unit m :: ps' =>
        if 0xdc00 ≤ m ∧ m ≤ 0xdfff then
          (join? ps').map (Char.ofNat (0x10000 + (n - 0xd800) * 0x400 + (m - 0xdc00)) :: ·)
        else none
      | _ => none

def string (cs : List Char) : Option (Scalar × List Char) :=
  (pieces (cs.length + 1) cs).map fun (ps, rest) =>
    (match join? ps with
      | some text => .str (String.ofList text)
      | none => .unreadable, rest)

def word? : List Char → List Char → Option (List Char)
  | [], cs => some cs
  | c :: word, d :: cs => if c = d then word? word cs else none
  | _ :: _, [] => none

mutual

/-- A value, with the white space before it; `fuel` bounds the number of values and lists. -/
def value : Nat → List Char → Option (Tree × List Char)
  | 0, _ => none
  | fuel + 1, cs =>
    match dropSpace cs with
    | '"' :: rest => (string rest).map fun (s, rest') => (.scalar s, rest')
    | '[' :: rest =>
      match dropSpace rest with
      | ']' :: rest' => some (.list true [], rest')
      | _ => (items fuel rest).map fun (ts, rest') => (.list true ts, rest')
    | '\x7b' :: rest =>
      match dropSpace rest with
      | '\x7d' :: rest' => some (.map [], rest')
      | _ => (fields fuel rest).map fun (es, rest') => (.map es, rest')
    | '-' :: rest => (number true rest).map fun (n, rest') => (.scalar n, rest')
    | 't' :: rest => (word? ['r', 'u', 'e'] rest).map fun rest' => (.scalar (.bool true), rest')
    | 'f' :: rest =>
      (word? ['a', 'l', 's', 'e'] rest).map fun rest' => (.scalar (.bool false), rest')
    | 'n' :: rest => (word? ['u', 'l', 'l'] rest).map fun rest' => (.scalar .null, rest')
    | rest => (number false rest).map fun (n, rest') => (.scalar n, rest')

/-- The items of a list up to its closing bracket, of which there is at least one. -/
def items : Nat → List Char → Option (List Tree × List Char)
  | 0, _ => none
  | fuel + 1, cs => do
    let (t, rest) ← value fuel cs
    match dropSpace rest with
    | ',' :: rest' =>
      let (ts, rest'') ← items fuel rest'
      return (t :: ts, rest'')
    | ']' :: rest' => return ([t], rest')
    | _ => none

/-- The fields of an object up to its closing brace, of which there is at least one. -/
def fields : Nat → List Char → Option (List (Tree × Tree) × List Char)
  | 0, _ => none
  | fuel + 1, cs =>
    match dropSpace cs with
    | '"' :: rest => do
      let (key, rest) ← string rest
      match dropSpace rest with
      | ':' :: rest =>
        let (t, rest) ← value fuel rest
        match dropSpace rest with
        | ',' :: rest' =>
          let (es, rest'') ← fields fuel rest'
          return ((.scalar key, t) :: es, rest'')
        | '\x7d' :: rest' => return ([(.scalar key, t)], rest')
        | _ => none
      | _ => none
    | _ => none

end

end Json.Reader

/-- The deepest nesting of a JSON text that is read. -/
def Json.depthLimit : Nat := 127

def Json.tree? (cs : List Char) : Option Tree := do
  let (t, rest) ← Json.Reader.value (2 * cs.length + 2) cs
  if (Json.Reader.dropSpace rest).isEmpty then some t else none

def Json.parse? (text : String) : Option Json :=
  (Json.tree? text.toList).bind (Tree.json? Json.depthLimit)

end ApiCatalog
