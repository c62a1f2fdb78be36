import ApiCatalog.Decimal.Double

/-! # Shortest decimals

The decimal with the fewest digits that reads back as a given binary64 number, and its layout.
-/

namespace ApiCatalog

/-- The number `digits * 10 ^ exponent`. -/
structure Decimal where
  digits : Nat
  exponent : Int
  deriving DecidableEq, Repr

namespace Decimal

/-- Drop the zeros at the end of the digits; `fuel` bounds their number. -/
def stripZeros : Nat → Decimal → Decimal
  | 0, d => d
  | fuel + 1, d =>
    if d.digits ≠ 0 ∧ d.digits % 10 = 0 then stripZeros fuel ⟨d.digits / 10, d.exponent + 1⟩ else d

/-- The largest `e` below the bound with `10 ^ e * den ≤ num`, counted up from `start`. -/
def orderUp (num den : Nat) : Nat → Nat → Nat
  | 0, e => e
  | fuel + 1, e => if den * Nat.pow 10 (e + 1) ≤ num then orderUp num den fuel (e + 1) else e

/-- The least `e` with `den ≤ num * 10 ^ e`, counted up from `start`. -/
def orderDown (num den : Nat) : Nat → Nat → Nat
  | 0, e => e
  | fuel + 1, e => if den ≤ num * Nat.pow 10 e then e else orderDown num den fuel (e + 1)

/-- The exponent of the leading digit of `num / den`. -/
def order (num den : Nat) : Int :=
  if den ≤ num then orderUp num den 400 ((num.log2 - den.log2) * 3 / 10 - 1)
  else -(orderDown num den 400 ((den.log2 - num.log2) * 3 / 10 - 1) : Nat)

/-- The reals that round to a number, as numerators over a common denominator, with the number
itself in the middle. The ends belong to the interval when `closed`. -/
structure Neighbourhood where
  low : Nat
  middle : Nat
  high : Nat
  den : Nat
  closed : Bool

def Neighbourhood.of (x : Double) : Neighbourhood :=
  let m := x.mantissa
  let below := if m = Double.binade ∧ x.scale ≠ -1074 then 1 else 2
  let up := Nat.pow 2 (x.scale - 2).toNat
  ⟨(4 * m - below) * up, 4 * m * up, (4 * m + 2) * up, Nat.pow 2 (2 - x.scale).toNat, m % 2 = 0⟩

def Neighbourhood.holds (n : Neighbourhood) (digits : Nat) (exponent : Int) : Bool :=
  let value := digits * Nat.pow 10 exponent.toNat * n.den
  let unit := Nat.pow 10 (-exponent).toNat
  if n.closed then n.low * unit ≤ value && value ≤ n.high * unit
  else n.low * unit < value && value < n.high * unit

/-- Of the two neighbours of the number on the grid of `10 ^ exponent`, the one that rounds to it;
of two such the nearer, and halfway between them the even one. -/
def Neighbourhood.onGrid? (n : Neighbourhood) (exponent : Int) : Option Decimal :=
  let num := n.middle * Nat.pow 10 (-exponent).toNat
  let den := n.den * Nat.pow 10 exponent.toNat
  let floor := num / den
  let nearest := Double.divideToNearest num den
  let other := if nearest = floor then floor + 1 else floor
  if n.holds nearest exponent then some ⟨nearest, exponent⟩
  else if n.holds other exponent then some ⟨other, exponent⟩
  else none

/-- Search the grids from coarse to fine; the finest one of seventeen digits always has a hit. -/
def search (n : Neighbourhood) : Nat → Int → Decimal
  | 0, exponent =>
    ⟨n.middle * Nat.pow 10 (-exponent).toNat / (n.den * Nat.pow 10 exponent.toNat), exponent⟩
  | fuel + 1, exponent =>
    match n.onGrid? exponent with
    | some d => stripZeros 20 d
    | none => search n fuel (exponent - 1)

/-- The decimal with the fewest digits that reads back as the magnitude of a number; of several,
the nearest one. -/
def shortest (x : Double) : Decimal :=
  if x.isZero then ⟨0, 0⟩
  else
    let n := Neighbourhood.of x
    search n 17 (order n.middle n.den)

/-- A decimal written out: positional from `10 ^ (-5)` up to `10 ^ 16`, with at least one digit on
both sides of the point, and with a signed exponent outside of that. -/
def layout (d : Decimal) : String :=
  let ds := (toString d.digits).toList
  let count : Int := ds.length
  let leading := d.exponent + count - 1
  let text : List Char :=
    if leading < -5 ∨ 16 ≤ leading then
      let mantissa := match ds with
        | c :: c' :: rest => c :: '.' :: c' :: rest
        | short => short
      let sign := if leading < 0 then '-' else '+'
      mantissa ++ ['e', sign] ++ (toString leading.natAbs).toList
    else if 0 ≤ d.exponent then ds ++ List.replicate d.exponent.toNat '0' ++ ['.', '0']
    else if 0 ≤ leading then
      ds.take (leading + 1).toNat ++ ['.'] ++ ds.drop (leading + 1).toNat
    else ['0', '.'] ++ List.replicate (-leading - 1).toNat '0' ++ ds
  String.ofList text

end Decimal

/-- The shortest text of a number, with its sign. -/
def Double.text (x : Double) : String :=
  (if x.negative then "-" else "") ++ (Decimal.shortest x).layout

end ApiCatalog
