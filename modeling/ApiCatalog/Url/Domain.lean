import ApiCatalog.Text.Direction
import ApiCatalog.Text.Joining
import ApiCatalog.Text.Normal
import ApiCatalog.Url.Domain.Mapping
import ApiCatalog.Url.Punycode

/-! # International domains

How a domain is read, and when its labels are valid.
-/

namespace ApiCatalog.Url.Domain

open Text (Direction Joining)

def isAscii (c : Char) : Bool := c.toNat < 0x80

/-- Whether an invisible joiner has an effect between `before`, last first, and `after`. Both kinds
have one after a virama, and the one that keeps letters apart also between letters that join. -/
def isEffective (joiner : Char) (before after : List Char) : Bool :=
  let visible (cs : List Char) : Option Char :=
    (cs.dropWhile fun c => Joining.of c == .transparent).head?
  before.head?.any Text.Mark.isVirama ||
    (joiner == '\u200c' && (visible before).any Joining.joinsNext &&
      (visible after).any Joining.joinsPrevious)

/-- Whether every joiner has an effect, where `before` holds what precedes the text, last first. -/
def joinersAreEffective (before : List Char) : List Char → Bool
  | [] => true
  | c :: rest =>
    (!(c == '\u200c' || c == '\u200d') || isEffective c before rest) &&
      joinersAreEffective (c :: before) rest

/-- Whether a character brings the direction of a domain into question. -/
def turns (direction : Direction) : Bool := direction == .right || direction == .arabicNumber

/-- Whether a label reads the same way from its first letter to its last one, so that it is not torn
apart where labels of both directions stand side by side. -/
def keepsDirection (label : List Char) : Bool :=
  match label.map Direction.of with
  | [] => true
  | first :: rest =>
    let body := (rest.reverse.dropWhile (· == .mark)).reverse
    match first with
    | .left => !body.any turns && body.getLast?.all fun d => d == .left || d == .europeanNumber
    | .right =>
      !body.contains .left && !(body.contains .europeanNumber && body.contains .arabicNumber) &&
        body.getLast?.all fun d => turns d || d == .europeanNumber
    | _ => false

def longestLabel : Nat := 1000

def isValidLabel (label : List Char) : Bool :=
  label.all isValid && !label.head?.any Text.Mark.isMark && joinersAreEffective [] label &&
    (label.all isAscii || label.length ≤ longestLabel)

/-- The label that is meant by one in ASCII form, and any other label itself. The form is only for
labels in normal form that are not ASCII. -/
def label? : List Char → Option (List Char)
  | 'x' :: 'n' :: '-' :: '-' :: code =>
    (Punycode.decode? code).filter fun label => !label.all isAscii && Text.normalize label == label
  | label => some label

def parse? (cs : List Char) : Option (List (List Char)) := do
  let labels ← ((Text.normalize (cs.flatMap image)).splitOn '.').mapM label?
  guard (labels.all isValidLabel)
  guard (labels.all keepsDirection || !labels.any fun label => label.any (turns ∘ Direction.of))
  return labels

end ApiCatalog.Url.Domain
