/-! # Double precision numbers

The finite binary64 numbers, with rounding of exact ratios to the nearest of them. A number is its
sign and its place among the finite magnitudes, so equal magnitudes have equal representations.
-/

namespace ApiCatalog

/-- The number of magnitudes from one power of two to the next. -/
def Double.binade : Nat := Nat.pow 2 52

/-- A finite binary64 number. Magnitudes are counted upwards from zero. -/
structure Double where
  negative : Bool
  magnitude : Fin (2047 * Double.binade)
  deriving DecidableEq, Repr

namespace Double

def isZero (x : Double) : Bool := x.magnitude.val == 0

/-- The number whose magnitude has the given place, if it is finite. -/
def ofPlace? (negative : Bool) (place : Nat) : Option Double :=
  if h : place < 2047 * binade then some ⟨negative, ⟨place, h⟩⟩ else none

/-- The integer that `scale` scales to the magnitude. -/
def mantissa (x : Double) : Nat :=
  if x.magnitude.val < binade then x.magnitude.val else binade + x.magnitude.val % binade

/-- The power of two that `mantissa` counts. -/
def scale (x : Double) : Int := max (x.magnitude.val / binade : Nat) 1 - 1075

/-- Equality as numbers: the two zeros are equal. -/
def same (x y : Double) : Bool := x == y || (x.isZero && y.isZero)

/-- A quotient rounded to the nearest natural number, and halfway to the even one. -/
def divideToNearest (num den : Nat) : Nat :=
  let floor := num / den
  let twice := 2 * (num % den)
  if twice < den then floor
  else if den < twice then floor + 1
  else if floor % 2 = 0 then floor else floor + 1

/-- The place of the magnitude nearest to `num / den`; infinity is the place after the last. -/
def nearestPlace (num den : Nat) : Nat :=
  if num = 0 then 0
  else
    let scale : Int := max ((num.log2 : Int) - (den.log2 : Int) - 53) (-1074)
    let num' := num * Nat.pow 2 (-scale).toNat
    let den' := den * Nat.pow 2 scale.toNat
    if num' / den' < 2 * binade then
      (scale + 1074).toNat * binade + divideToNearest num' den'
    else
      (scale + 1075).toNat * binade + divideToNearest num' (2 * den')

/-- The nearest number to a ratio, unless it is beyond the finite numbers. -/
def ofRatio? (negative : Bool) (num den : Nat) : Option Double :=
  ofPlace? negative (nearestPlace num den)

/-- The nearest number to `digits * 10 ^ exponent`, unless it is beyond the finite numbers. A
magnitude outside the range of the powers `10 ^ (-400)` to `10 ^ 400` is decided by its exponent. -/
def ofDecimal? (negative : Bool) (digits : Nat) (exponent : Int) : Option Double :=
  let order := exponent + (digits.log2 / 3 : Nat)
  if digits = 0 then ofPlace? negative 0
  else if exponent > 400 then none
  else if order < -400 then ofPlace? negative 0
  else ofRatio? negative (digits * Nat.pow 10 exponent.toNat) (Nat.pow 10 (-exponent).toNat)

/-- The exact value of a number as a ratio of natural numbers, without its sign. -/
def ratio (x : Double) : Nat × Nat :=
  (x.mantissa * Nat.pow 2 x.scale.toNat, Nat.pow 2 (-x.scale).toNat)

def mul? (x y : Double) : Option Double :=
  ofRatio? (x.negative != y.negative) (x.ratio.1 * y.ratio.1) (x.ratio.2 * y.ratio.2)

def div? (x y : Double) : Option Double :=
  ofRatio? (x.negative != y.negative) (x.ratio.1 * y.ratio.2) (x.ratio.2 * y.ratio.1)

def ofInt? (n : Int) : Option Double := ofRatio? (n < 0) n.natAbs 1

end Double

end ApiCatalog
