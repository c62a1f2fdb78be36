import ApiCatalog.Text.Mark
import ApiCatalog.Text.Normal.Table

/-! # Normal form

The canonical composition of a text: texts that Unicode takes for the same have the same form.
-/

namespace ApiCatalog.Text

namespace Normal

/-- A syllable of Hangul is a leading consonant, a vowel, and a trailing consonant or none. The
syllables are in the order of their letters. -/
def firstSyllable : Nat := 0xac00

def firstLead : Nat := 0x1100

def firstVowel : Nat := 0x1161

/-- The place before the first trailing consonant, which stands for none. -/
def noTail : Nat := 0x11a7

def leadCount : Nat := 19

def vowelCount : Nat := 21

def tailCount : Nat := 28

def syllableLetters? (c : Char) : Option (List Char) :=
  let index := c.toNat - firstSyllable
  if firstSyllable ≤ c.toNat ∧ index < leadCount * vowelCount * tailCount then
    let opening := [Char.ofNat (firstLead + index / tailCount / vowelCount),
      Char.ofNat (firstVowel + index / tailCount % vowelCount)]
    if index % tailCount = 0 then some opening
    else some (opening ++ [Char.ofNat (noTail + index % tailCount)])
  else none

/-- The syllable of a leading consonant and a vowel, or of a syllable without a trailing consonant
and one. -/
def syllable? (a b : Char) : Option Char :=
  let lead := a.toNat - firstLead
  let vowel := b.toNat - firstVowel
  let tail := b.toNat - noTail
  if firstLead ≤ a.toNat ∧ lead < leadCount ∧ firstVowel ≤ b.toNat ∧ vowel < vowelCount then
    some (Char.ofNat (firstSyllable + (lead * vowelCount + vowel) * tailCount))
  else if (syllableLetters? a).any (·.length == 2) ∧ 0 < tail ∧ tail < tailCount then
    some (Char.ofNat (a.toNat + tail))
  else none

/-- The decomposition of a character that is composed at most `depth` times. -/
def decomposeWithin : Nat → Char → List Char
  | 0, c => [c]
  | depth + 1, c =>
    match composites.lookup c.toNat with
    | some (first, second) => decomposeWithin depth (Char.ofNat first) ++ [Char.ofNat second]
    | none =>
      match dissolved.lookup c.toNat with
      | some codes => codes.map Char.ofNat
      | none => (syllableLetters? c).getD [(rowImage? ideographs c).getD c]

/-- The decomposition of a character. None is composed more than three times. -/
def decompose (c : Char) : List Char := decomposeWithin 3 c

/-- Puts a character before ordered ones, or behind the marks among them that are to precede it. -/
def insertOrdered (c : Char) : List Char → List Char
  | [] => [c]
  | d :: rest =>
    if 0 < Mark.combiningClass d ∧ Mark.combiningClass d < Mark.combiningClass c then
      d :: insertOrdered c rest
    else c :: d :: rest

/-- The characters with the marks at each letter in the order of their classes. -/
def order (cs : List Char) : List Char := cs.foldr insertOrdered []

def isStarter (c : Char) : Bool := Mark.combiningClass c == 0

def pair? (a b : Char) : Option Char :=
  match syllable? a b with
  | some c => some c
  | none =>
    (composites.find? fun (_, first, second) => first == a.toNat && second == b.toNat).map
      fun (code, _, _) => Char.ofNat code

/-- The composition of a starter with what follows it, where `passed` holds the marks between them
that did not compose, last first. A mark behind one of the same class is kept from the starter. -/
def composeFrom (starter : Char) (passed : List Char) : List Char → List Char
  | [] => starter :: passed.reverse
  | c :: rest =>
    let isBlocked := passed.head?.any fun d => Mark.combiningClass c ≤ Mark.combiningClass d
    match if isBlocked then none else pair? starter c with
    | some composed => composeFrom composed passed rest
    | none =>
      if isStarter c then starter :: passed.reverse ++ composeFrom c [] rest
      else composeFrom starter (c :: passed) rest

def compose : List Char → List Char
  | [] => []
  | c :: rest => if isStarter c then composeFrom c [] rest else c :: compose rest

end Normal

def normalize (cs : List Char) : List Char :=
  Normal.compose (Normal.order (cs.flatMap Normal.decompose))

end ApiCatalog.Text
