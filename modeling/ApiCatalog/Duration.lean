import ApiCatalog.Text.Blank
import ApiCatalog.Word

/-! # Durations

Spans of time as people write them, such as `1h 30m`, down to nanoseconds.
-/

namespace ApiCatalog

structure Duration where
  nanoseconds : Nat
  deriving DecidableEq, Repr

/-- Why a text is no duration; places are counted in bytes. -/
inductive DurationFault where
  | empty
  | invalidCharacter (place : Nat)
  | numberExpected (place : Nat)
  | unknownUnit (unit : String) (value : Nat)
  | overflow
  deriving DecidableEq, Repr

namespace DurationFault

def message : DurationFault → String
  | empty => "value was empty"
  | invalidCharacter place => s!"invalid character at {place}"
  | numberExpected place => s!"expected number at {place}"
  | unknownUnit unit value =>
    if unit.isEmpty then s!"time unit needed, for example {value}sec or {value}ms"
    else s!"unknown time unit \"{unit}\", supported units: " ++
      "ns, us/µs, ms, sec, min, hours, days, weeks, months, years (and few variations)"
  | overflow =>
    "number is too large or cannot be represented without a lack of precision " ++
      "(values below 1ns are not supported)"

end DurationFault

namespace Duration

def ofSeconds (n : Nat) : Duration := ⟨n * 1000000000⟩

def isZero (d : Duration) : Bool := d.nanoseconds == 0

/-- A unit of time. Fractions of the units up to a minute are counted in nanoseconds, those of
longer units in seconds. -/
structure Unit where
  names : List String
  /-- The length in nanoseconds, or in seconds for a unit of whole seconds. -/
  length : Nat
  wholeSeconds : Bool
  /-- The length in the unit that fractions are counted in; zero if there are no fractions. -/
  fractionLength : Nat
  fractionInSeconds : Bool

def units : List Unit :=
  [⟨["nanos", "nsec", "ns"], 1, false, 0, false⟩,
    ⟨["usec", "us", "µs"], 1000, false, 1000, false⟩,
    ⟨["millis", "msec", "ms"], 1000000, false, 1000000, false⟩,
    ⟨["seconds", "second", "secs", "sec", "s"], 1, true, 1000000000, false⟩,
    ⟨["minutes", "minute", "min", "mins", "m"], 60, true, 60000000000, false⟩,
    ⟨["hours", "hour", "hr", "hrs", "h"], 3600, true, 3600, true⟩,
    ⟨["days", "day", "d"], 86400, true, 86400, true⟩,
    ⟨["weeks", "week", "wk", "wks", "w"], 604800, true, 604800, true⟩,
    ⟨["months", "month", "M"], 2630016, true, 2630016, true⟩,
    ⟨["years", "year", "yr", "yrs", "y"], 31557600, true, 31557600, true⟩]

/-- What is left of a text, and the place where it starts, in bytes. -/
structure Rest where
  chars : List Char
  place : Nat

def Rest.next (rest : Rest) : Rest :=
  match rest.chars with
  | c :: cs => ⟨cs, rest.place + c.utf8Size⟩
  | [] => rest

def isLetter (c : Char) : Bool := c.isAlpha || c == 'µ'

def within (n : Nat) : Except DurationFault Nat :=
  if n < wordSize 64 then .ok n else .error .overflow

def addDigit (n : Nat) (c : Char) : Except DurationFault Nat := do
  within ((← within (n * 10)) + (c.toNat - '0'.toNat))

/-- A fraction as its digits over a power of ten. -/
structure Fraction where
  digits : Nat
  scale : Nat

/-- The digits after a point, which may hold white space. A fault is told at `mark`: at the point
itself, until something follows it. There has to be a digit. -/
def readFraction : Nat → Nat → Fraction → Rest → Except DurationFault (Fraction × Rest)
  | 0, mark, _, _ => .error (.invalidCharacter mark)
  | fuel + 1, mark, fraction, rest =>
    let done : Except DurationFault (Fraction × Rest) :=
      if fraction.scale = 1 then .error (.invalidCharacter mark) else .ok (fraction, rest)
    match rest.chars with
    | [] => done
    | c :: _ =>
      if c.isDigit then do
        let scale ← within (fraction.scale * 10)
        let digits ← addDigit fraction.digits c
        readFraction fuel rest.next.place ⟨digits, scale⟩ rest.next
      else if Text.isBlank c then readFraction fuel rest.next.place fraction rest.next
      else if isLetter c then done
      else .error (.invalidCharacter mark)

/-- The rest of a number after its first digit, with the fraction after its point. Digits may stand
apart. -/
def readNumber : Nat → Nat → Rest → Except DurationFault (Nat × Option Fraction × Rest)
  | 0, n, rest => .ok (n, none, rest)
  | fuel + 1, n, rest =>
    match rest.chars with
    | [] => .ok (n, none, rest)
    | c :: _ =>
      if c.isDigit then do
        let n ← addDigit n c
        readNumber fuel n rest.next
      else if Text.isBlank c then readNumber fuel n rest.next
      else if isLetter c then .ok (n, none, rest)
      else if c == '.' then do
        let (fraction, rest') ← readFraction (rest.chars.length + 1) rest.place ⟨0, 1⟩ rest.next
        return (n, some fraction, rest')
      else .error (.invalidCharacter rest.place)

/-- The letters of a unit, which ends at white space, at a digit or with the text. -/
def readUnit : Nat → List Char → Rest → Except DurationFault (List Char × Rest)
  | 0, letters, rest => .ok (letters, rest)
  | fuel + 1, letters, rest =>
    match rest.chars with
    | [] => .ok (letters, rest)
    | c :: _ =>
      if c.isDigit then .ok (letters, rest)
      else if Text.isBlank c then .ok (letters, rest.next)
      else if isLetter c then readUnit fuel (letters ++ [c]) rest.next
      else .error (.invalidCharacter rest.place)

/-- Add seconds and nanoseconds to a duration whose seconds have to fit 64 bits. -/
def add (d : Duration) (seconds nanoseconds : Nat) : Except DurationFault Duration := do
  let nanos ← within (d.nanoseconds % 1000000000 + nanoseconds)
  let seconds ← within (seconds + nanos / 1000000000)
  let seconds ← within (d.nanoseconds / 1000000000 + seconds)
  return ⟨seconds * 1000000000 + nanos % 1000000000⟩

/-- Add a number of units to a duration. A fraction has to be exact. -/
def addUnits (d : Duration) (name : String) (n : Nat) (fraction : Option Fraction) :
    Except DurationFault Duration :=
  match units.find? (·.names.contains name) with
  | none => .error (.unknownUnit name n)
  | some unit => do
    let whole ← within (n * unit.length)
    let d ← if unit.wholeSeconds then d.add whole 0 else d.add 0 whole
    match fraction with
    | none => return d
    | some fraction =>
      if unit.fractionLength = 0 then throw .overflow
      let parts ← within (fraction.digits * unit.fractionLength)
      if parts % fraction.scale ≠ 0 then throw .overflow
      let part := parts / fraction.scale
      if unit.fractionInSeconds then d.add part 0 else d.add 0 part

/-- The first digit after white space, if the text goes on. That it is no digit is told at the place
where the search starts. -/
def firstDigit? (place : Nat) : Nat → Rest → Except DurationFault (Option (Nat × Rest))
  | 0, _ => .ok none
  | fuel + 1, rest =>
    match rest.chars with
    | [] => .ok none
    | c :: _ =>
      if c.isDigit then .ok (some (c.toNat - '0'.toNat, rest.next))
      else if Text.isBlank c then firstDigit? place fuel rest.next
      else .error (.numberExpected place)

/-- Add the spans of a text to a duration; `fuel` bounds their number. -/
def readSpans : Nat → Duration → Rest → Except DurationFault Duration
  | 0, d, _ => .ok d
  | fuel + 1, d, rest => do
    match ← firstDigit? rest.place (rest.chars.length + 1) rest with
    | none => return d
    | some (n, rest) =>
      let (n, fraction, rest) ← readNumber (rest.chars.length + 1) n rest
      let (letters, rest) ← readUnit (rest.chars.length + 1) [] rest
      let d ← d.addUnits (String.ofList letters) n fraction
      readSpans fuel d rest

/-- The duration that a text says: zero, or at least one span. -/
def parse (text : String) : Except DurationFault Duration := do
  if text == "0" then return ⟨0⟩
  let start : Rest := ⟨text.toList, 0⟩
  match ← firstDigit? start.place (start.chars.length + 1) start with
  | none => throw .empty
  | some _ => readSpans (start.chars.length + 1) ⟨0⟩ start

/-- A part of a duration with its unit; nothing for zero. -/
def part (n : Nat) (unit : String) (plural : Bool) : List String :=
  if n = 0 then [] else [toString n ++ unit ++ (if plural && 1 < n then "s" else "")]

/-- A duration by its parts, from years down to nanoseconds. -/
def text (d : Duration) : String :=
  if d.isZero then "0s"
  else
    let seconds := d.nanoseconds / 1000000000
    let nanos := d.nanoseconds % 1000000000
    let inYear := seconds % 31557600
    let inMonth := inYear % 2630016
    let inDay := inMonth % 86400
    " ".intercalate <|
      part (seconds / 31557600) "year" true ++ part (inYear / 2630016) "month" true ++
        part (inMonth / 86400) "day" true ++ part (inDay / 3600) "h" false ++
        part (inDay % 3600 / 60) "m" false ++ part (inDay % 60) "s" false ++
        part (nanos / 1000000) "ms" false ++ part (nanos / 1000 % 1000) "us" false ++
        part (nanos % 1000) "ns" false

end Duration

end ApiCatalog
