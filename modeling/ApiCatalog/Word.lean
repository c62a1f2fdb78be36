/-! # Words

The ranges of the numbers that fit words of a fixed number of bits.
-/

namespace ApiCatalog

def wordSize (bits : Nat) : Nat := Nat.pow 2 bits

end ApiCatalog
