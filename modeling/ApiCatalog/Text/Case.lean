import ApiCatalog.Text.Case.Table
import ApiCatalog.Text.Ranges

/-! # Upper and lower case

The case mappings of Unicode for whole texts, one character of which may become several, and the
comparison of texts that ignores the case of ASCII letters.
-/

namespace ApiCatalog.Text

namespace Case

def isCased (c : Char) : Bool := inRanges casedRanges c

def isIgnorable (c : Char) : Bool := inRanges caseIgnorableRanges c

/-- The image of a character that is in one of two tables. -/
def mapped? (runs : List Run) (expansions : List (Nat × List Nat)) (c : Char) :
    Option (List Char) :=
  match expansions.lookup c.toNat with
  | some codes => some (codes.map Char.ofNat)
  | none =>
    (runs.find? (·.covers c.toNat)).map fun run =>
      [Char.ofNat (Int.ofNat c.toNat + run.shift).toNat]

def upper (c : Char) : List Char :=
  if c.toNat < 0x80 then [c.toUpper] else (mapped? upperRuns upperExpansions c).getD [c]

def lower (c : Char) : List Char :=
  if c.toNat < 0x80 then [c.toLower] else (mapped? lowerRuns lowerExpansions c).getD [c]

/-- Whether the nearest character that is not passed over has a case. -/
def nextIsCased (cs : List Char) : Bool :=
  match cs.dropWhile isIgnorable with
  | c :: _ => isCased c
  | [] => false

/-- The lower case of a text, where `before` holds the characters already passed, last first. A
capital sigma at the end of a word becomes the final form of the letter. -/
def lowerFrom (before : List Char) : List Char → List Char
  | [] => []
  | c :: rest =>
    let image :=
      if c = 'Σ' then
        if nextIsCased before && !nextIsCased rest then ['ς'] else ['σ']
      else lower c
    image ++ lowerFrom (c :: before) rest

end Case

def toUpper (s : String) : String := String.ofList (s.toList.flatMap Case.upper)

def toLower (s : String) : String := String.ofList (Case.lowerFrom [] s.toList)

def toAsciiUpper (s : String) : String := String.ofList (s.toList.map Char.toUpper)

def toAsciiLower (s : String) : String := String.ofList (s.toList.map Char.toLower)

def sameIgnoringAsciiCase (s t : String) : Bool := toAsciiLower s == toAsciiLower t

end ApiCatalog.Text
