/-! # Tables of characters

Sets, properties and mappings of characters, stated for ranges of code points.
-/

namespace ApiCatalog.Text

def inRanges (ranges : List (Nat × Nat)) (c : Char) : Bool :=
  ranges.any fun (low, high) => low ≤ c.toNat && c.toNat ≤ high

/-- What the first range with a character states about it. -/
def statedIn? (ranges : List (Nat × Nat × α)) (c : Char) : Option α :=
  ranges.findSome? fun (low, high, value) =>
    if low ≤ c.toNat ∧ c.toNat ≤ high then some value else none

/-- The image of a character in rows that each hold the first character and the images of it and
those after it. -/
def rowImage? (rows : List (Nat × List Nat)) (c : Char) : Option Char :=
  rows.findSome? fun (first, images) =>
    if first ≤ c.toNat then images[c.toNat - first]?.map Char.ofNat else none

end ApiCatalog.Text
