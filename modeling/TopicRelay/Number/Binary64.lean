/-!
# Finite binary64 numbers

A double-precision number that is neither infinite nor undefined, kept as a sign,
a significand and a power of two, so that every question about it is a question
about natural numbers.  The module rounds a quotient of naturals to the nearest
such number, ties to the even significand, and builds on that the two ways in
which decimal literals become numbers here: `nearestDecimal` rounds the literal
once, `scaledDecimal` rounds its digits first and then the product with a power
of ten.
-/

namespace TopicRelay

set_option autoImplicit false

/-- The finite number `±significand · 2 ^ exponent`. -/
structure Binary64 where
  negative : Bool
  significand : Nat
  exponent : Int
  deriving DecidableEq, Repr

namespace Binary64

/-- The least exponent; every subnormal number has it. -/
def minExponent : Int := -1074

/-- The greatest exponent of a finite number. -/
def maxExponent : Int := 971

/-- Every significand is below this bound, `2 ^ 53`. -/
def significandBound : Nat := 9007199254740992

/-- The least significand of a number that is not subnormal, `2 ^ 52`. -/
def leastNormal : Nat := 4503599627370496

/-- Zero, which keeps its sign. -/
def zero (negative : Bool) : Binary64 := ⟨negative, 0, minExponent⟩

/-- Whether the number is one of the two zeros. -/
def isZero (x : Binary64) : Bool := x.significand == 0

/-! ## Rounding a quotient -/

/-- `numerator / denominator` rounded to an integer, a half to the even neighbour. -/
def roundHalfEven (numerator denominator : Nat) : Nat :=
  let quotient := numerator / denominator
  let remainder := numerator % denominator
  if 2 * remainder < denominator then quotient
  else if denominator < 2 * remainder then quotient + 1
  else if quotient % 2 = 0 then quotient else quotient + 1

/-- `numerator / denominator` divided by `2 ^ exponent`, as a pair of naturals. -/
def atScale (numerator denominator : Nat) (exponent : Int) : Nat × Nat :=
  if 0 ≤ exponent then (numerator, denominator * Nat.pow 2 exponent.toNat)
  else (numerator * Nat.pow 2 (-exponent).toNat, denominator)

/-- The exponent at which the integer part of the quotient has 53 bits, or the least
one if it has fewer bits even there. -/
def exponentOf (numerator denominator : Nat) : Int :=
  let guess := max ((Nat.log2 numerator : Int) - Nat.log2 denominator - 53) minExponent
  let (scaledNumerator, scaledDenominator) := atScale numerator denominator guess
  if significandBound ≤ scaledNumerator / scaledDenominator then guess + 1 else guess

/-- The number nearest to `±numerator / denominator`; `none` if that is beyond the
greatest finite one. -/
def nearest (negative : Bool) (numerator denominator : Nat) : Option Binary64 :=
  if numerator = 0 then some (zero negative)
  else
    let exponent := exponentOf numerator denominator
    let (scaledNumerator, scaledDenominator) := atScale numerator denominator exponent
    let rounded := roundHalfEven scaledNumerator scaledDenominator
    let (significand, exponent) :=
      if rounded = significandBound then (leastNormal, exponent + 1) else (rounded, exponent)
    if exponent ≤ maxExponent then some ⟨negative, significand, exponent⟩ else none

/-- The magnitude as a quotient of naturals. -/
def toQuotient (x : Binary64) : Nat × Nat :=
  if 0 ≤ x.exponent then (x.significand * Nat.pow 2 x.exponent.toNat, 1)
  else (x.significand, Nat.pow 2 (-x.exponent).toNat)

/-! ## Decimal literals -/

/-- `digits · 10 ^ scale` rounded once. -/
def nearestDecimal (negative : Bool) (digits : Nat) (scale : Int) : Option Binary64 :=
  if digits = 0 then some (zero negative)
  -- Beyond these bounds the answer is known, and the power of ten need not be written out.
  else if 400 < scale then none
  else if scale + (Nat.log2 digits : Int) < -1200 then some (zero negative)
  else if 0 ≤ scale then nearest negative (digits * Nat.pow 10 scale.toNat) 1
  else nearest negative digits (Nat.pow 10 (-scale).toNat)

/-- The greatest power of ten that is finite. -/
def maxPowerOfTen : Nat := 308

/-- The product of two magnitudes, rounded. -/
def times (x y : Binary64) : Option Binary64 :=
  let (numerator, denominator) := x.toQuotient
  let (numerator', denominator') := y.toQuotient
  nearest x.negative (numerator * numerator') (denominator * denominator')

/-- The quotient of two magnitudes, rounded; `none` also where the divisor is zero. -/
def dividedBy (x y : Binary64) : Option Binary64 :=
  let (numerator, denominator) := x.toQuotient
  let (numerator', denominator') := y.toQuotient
  if numerator' = 0 then none
  else nearest x.negative (numerator * denominator') (denominator * numerator')

/-- `10 ^ power` rounded. -/
def powerOfTen (power : Nat) : Option Binary64 := nearest false (Nat.pow 10 power) 1

/-- Divides by `10 ^ 308` while the scale is below what one division can reach. -/
def lowered : Nat → Binary64 → Int → Option (Binary64 × Int)
  | 0, x, scale => some (x, scale)
  | rounds + 1, x, scale =>
    if scale < -(maxPowerOfTen : Int) then do
      let unit ← powerOfTen maxPowerOfTen
      let smaller ← x.dividedBy unit
      lowered rounds smaller (scale + maxPowerOfTen)
    else some (x, scale)

/-- `digits · 10 ^ scale` with the digits rounded first and the product with a rounded
power of ten rounded again.  A scale that no power of ten reaches is refused, and a
scale far below zero is approached in steps of `10 ^ 308`. -/
def scaledDecimal (negative : Bool) (digits : Nat) (scale : Int) : Option Binary64 := do
  let rounded ← nearest negative digits 1
  if rounded.isZero then return rounded
  if (maxPowerOfTen : Int) < scale then none
  else if 0 ≤ scale then rounded.times (← powerOfTen scale.toNat)
  else do
    -- Three divisions by `10 ^ 308` leave nothing of any number.
    let (smaller, rest) ← lowered 3 rounded scale
    if rest < -(maxPowerOfTen : Int) then return zero negative
    smaller.dividedBy (← powerOfTen (-rest).toNat)

end Binary64

end TopicRelay
