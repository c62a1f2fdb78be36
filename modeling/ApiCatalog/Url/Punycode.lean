/-! # Punycode

How a label of an international domain is written in ASCII: its ASCII characters come first, and a
row of numbers tells which other characters go in between, and where.
-/

namespace ApiCatalog.Url.Punycode

/-- The value of a digit in base 36: small letters come before digits. -/
def digit? (c : Char) : Option Nat :=
  if 'a' ≤ c ∧ c ≤ 'z' then some (c.toNat - 'a'.toNat)
  else if c.isDigit then some (c.toNat - '0'.toNat + 26)
  else none

/-- The smallest digit at a position that another digit of the same number follows. -/
def threshold (bias position : Nat) : Nat := min (max (position - bias) 1) 26

/-- The number at the start of some digits, least significant digit first, and what follows it. -/
def number? (bias position weight : Nat) : List Char → Option (Nat × List Char)
  | [] => none
  | c :: rest => do
    let digit ← digit? c
    let limit := threshold bias position
    if digit < limit then
      return (digit * weight, rest)
    else
      let (more, rest') ← number? bias (position + 36) (weight * (36 - limit)) rest
      return (digit * weight + more, rest')

theorem length_lt_of_number? {bias position weight n : Nat} {cs rest : List Char}
    (h : number? bias position weight cs = some (n, rest)) : rest.length < cs.length := by
  induction cs generalizing position weight n rest with
  | nil => simp [number?] at h
  | cons c cs ih =>
    simp only [number?, Option.bind_eq_bind, Option.bind_eq_some_iff] at h
    obtain ⟨digit, -, h⟩ := h
    split at h
    · simp_all
    · obtain ⟨⟨more, rest'⟩, hm, h⟩ := Option.bind_eq_some_iff.mp h
      obtain ⟨-, rfl⟩ : _ ∧ rest' = rest := by simpa using h
      exact Nat.lt_succ_of_lt (ih hm)

/-- The bias after a number, scaled down until it is small. -/
def settle (bias delta : Nat) : Nat :=
  if 455 < delta then settle (bias + 36) (delta / 35) else bias + 36 * delta / (delta + 38)
  termination_by delta

/-- The bias after a number that made its label `count` characters long. -/
def adapt (delta count : Nat) (isFirst : Bool) : Nat :=
  let damped := if isFirst then delta / 700 else delta / 2
  settle 0 (damped + damped / count)

/-- Inserts the characters that a row of numbers tells into a text. The ways to insert one are
counted by code, from `code` on, and then by place; each number says how many ways to pass over,
starting from `place`. -/
def insertAll? (code place bias : Nat) (text digits : List Char) : Option (List Char) :=
  match digits with
  | [] => some text
  | c :: cs =>
    match h : number? bias 36 1 (c :: cs) with
    | none => none
    | some (delta, rest) =>
      let count := text.length + 1
      let code' := code + (place + delta) / count
      let place' := (place + delta) % count
      if code'.isValidChar then
        insertAll? code' (place' + 1) (adapt delta count (place == 0))
          (text.insertIdx place' (Char.ofNat code')) rest
      else none
  termination_by digits.length
  decreasing_by exact length_lt_of_number? h

/-- The ASCII characters of a label and its digits, around the last hyphen that is not the first
character. -/
def split (cs : List Char) : List Char × List Char :=
  let digits := (cs.reverse.takeWhile (· != '-')).reverse
  let plain := cs.take (cs.length - digits.length - 1)
  if plain.isEmpty then ([], cs) else (plain, digits)

def longest : Nat := 2000

/-- The label that stands behind a text. -/
def decode? (cs : List Char) : Option (List Char) :=
  let (plain, digits) := split cs
  if longest < cs.length || !plain.all (·.toNat < 0x80) then none
  else insertAll? 0x80 0 72 plain digits

end ApiCatalog.Url.Punycode
