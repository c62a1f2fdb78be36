import ApiCatalog.Text.Mark.Table
import ApiCatalog.Text.Ranges

/-! # Marks

Characters that are written around the one before them.
-/

namespace ApiCatalog.Text.Mark

def isNonspacing (c : Char) : Bool := inRanges nonspacingRanges c

def isMark (c : Char) : Bool := isNonspacing c || inRanges spacingRanges c

/-- Where a mark sits at its letter. Marks of different classes do not touch, so their order tells
nothing; class zero is that of characters which keep their place. -/
def combiningClass (c : Char) : Nat := (statedIn? combiningClasses c).getD 0

/-- Whether a mark silences the vowel of its consonant. -/
def isVirama (c : Char) : Bool := combiningClass c == 9

end ApiCatalog.Text.Mark
