/-! # Fresh ids

New records get ids that nothing mentions yet: a mark for the kind of record and a number.
-/

namespace ApiCatalog

/-- The first id from a number on that is not in use; `fuel` bounds how many are tried. -/
def firstFree (used : List String) (mark : String) : Nat → Nat → String
  | 0, n => mark ++ toString n
  | fuel + 1, n =>
    if used.contains (mark ++ toString n) then firstFree used mark fuel (n + 1)
    else mark ++ toString n

def freshId (mark : String) (used : List String) : String := firstFree used mark used.length 1

end ApiCatalog
