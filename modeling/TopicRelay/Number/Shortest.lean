import TopicRelay.Number.Binary64

/-!
# The shortest decimal that reads back

`Decimal.shortest` writes a binary64 number with the fewest significant digits that
still round to it, and among those takes the digits nearest to the number.  For one,
two, … seventeen digits it tests the two neighbours of the number on that decimal
grid; the first grid with a neighbour inside the interval of reals that round to the
number wins.

The two printed forms follow: `Decimal.positional` writes every digit in its place,
and `Decimal.compact` changes to an exponent when the number is very large or small.
-/

namespace TopicRelay

set_option autoImplicit false

/-- The decimal number `digits · 10 ^ scale`. -/
structure Decimal where
  digits : Nat
  scale : Int
  deriving DecidableEq, Repr

namespace Decimal

/-! ## The grid search -/

/-- Compares two quotients of naturals. -/
def compareQuotients (x y : Nat × Nat) : Ordering := compare (x.1 * y.2) (y.1 * x.2)

/-- The quotient `digits · 10 ^ scale`. -/
def toQuotient (decimal : Decimal) : Nat × Nat :=
  if 0 ≤ decimal.scale then (decimal.digits * Nat.pow 10 decimal.scale.toNat, 1)
  else (decimal.digits, Nat.pow 10 (-decimal.scale).toNat)

/-- The reals that round to `x` lie between these two bounds. -/
def roundingBounds (x : Binary64) : (Nat × Nat) × (Nat × Nat) :=
  -- Below a power of two the numbers lie twice as close.
  let atPower := x.significand = Binary64.leastNormal ∧ Binary64.minExponent < x.exponent
  let below := if atPower then 1 else 2
  let quarter (significand : Nat) : Nat × Nat :=
    Binary64.toQuotient ⟨false, significand, x.exponent - 2⟩
  (quarter (4 * x.significand - below), quarter (4 * x.significand + 2))

/-- Whether the decimal rounds to `x`; the bounds themselves do if the significand is even. -/
def roundsTo (x : Binary64) (decimal : Decimal) : Bool :=
  let (lower, upper) := roundingBounds x
  let atLower := compareQuotients lower decimal.toQuotient
  let atUpper := compareQuotients decimal.toQuotient upper
  let closed := x.significand % 2 == 0
  (atLower == .lt || (closed && atLower == .eq)) && (atUpper == .lt || (closed && atUpper == .eq))

/-- The least `power` not below `start` with `10 ^ power · numerator ≥ denominator`. -/
def raisedTo (numerator denominator : Nat) : Nat → Nat → Nat
  | 0, start => start
  | fuel + 1, start =>
    if denominator ≤ numerator * Nat.pow 10 start then start
    else raisedTo numerator denominator fuel (start + 1)

/-- The power of ten of the first digit. -/
def leadingPower (numerator denominator : Nat) : Int :=
  if denominator ≤ numerator then ((Nat.toDigits 10 (numerator / denominator)).length : Int) - 1
  else -(raisedTo numerator denominator 400 0 : Int)

/-- The two neighbours of the number on the grid of `count` significant digits, and how far
each lies from the number in units of a common denominator. -/
def neighbours (numerator denominator : Nat) (lead : Int) (count : Nat) :
    (Decimal × Nat) × (Decimal × Nat) :=
  let scale := lead - count + 1
  let (scaledNumerator, scaledDenominator) :=
    if 0 ≤ scale then (numerator, denominator * Nat.pow 10 scale.toNat)
    else (numerator * Nat.pow 10 (-scale).toNat, denominator)
  let lower := scaledNumerator / scaledDenominator
  let rest := scaledNumerator % scaledDenominator
  ((⟨lower, scale⟩, rest), (⟨lower + 1, scale⟩, scaledDenominator - rest))

/-- The neighbour that rounds to `x`, the nearer one if both do, and the even one if they
are equally near. -/
def onGrid (x : Binary64) (lead : Int) (count : Nat) : Option Decimal :=
  let (numerator, denominator) := x.toQuotient
  let ((lower, lowerGap), (upper, upperGap)) := neighbours numerator denominator lead count
  match roundsTo x lower, roundsTo x upper with
  | true, true =>
    if lowerGap < upperGap || (lowerGap == upperGap && lower.digits % 2 == 0) then some lower
    else some upper
  | true, false => some lower
  | false, true => some upper
  | false, false => none

/-- Removes final zeros from the digits. -/
def trimmed : Nat → Decimal → Decimal
  | 0, decimal => decimal
  | fuel + 1, decimal =>
    if decimal.digits ≠ 0 ∧ decimal.digits % 10 = 0 then
      trimmed fuel ⟨decimal.digits / 10, decimal.scale + 1⟩
    else decimal

/-- The fewest digits that round to `x`, nearest to it among those. -/
def shortest (x : Binary64) : Decimal :=
  if x.isZero then ⟨0, 0⟩
  else
    let (numerator, denominator) := x.toQuotient
    let lead := leadingPower numerator denominator
    -- Seventeen digits always suffice, so the default is never taken.
    trimmed 20 (((List.range 17).findSome? fun count => onGrid x lead (count + 1)).getD ⟨0, 0⟩)

/-! ## Printed forms -/

/-- The digits in their places, with a point and at least one digit after it. -/
def positional (decimal : Decimal) : String :=
  let digits := Nat.toDigits 10 decimal.digits
  let whole := (digits.length : Int) + decimal.scale
  if whole ≤ 0 then "0." ++ String.ofList (List.replicate (-whole).toNat '0' ++ digits)
  else if 0 ≤ decimal.scale then
    String.ofList (digits ++ List.replicate decimal.scale.toNat '0') ++ ".0"
  else
    String.ofList (digits.take whole.toNat) ++ "." ++ String.ofList (digits.drop whole.toNat)

/-- One digit, the others after a point, and a signed power of ten. -/
def scientific (decimal : Decimal) : String :=
  let digits := Nat.toDigits 10 decimal.digits
  let power := (digits.length : Int) - 1 + decimal.scale
  let sign := if power < 0 then "-" else "+"
  let mantissa := match digits with
    | [] => ""
    | [digit] => String.ofList [digit]
    | digit :: rest => String.ofList (digit :: '.' :: rest)
  mantissa ++ "e" ++ sign ++ toString power.natAbs

/-- Positional while the first digit's power of ten is from -5 to 15, scientific outside. -/
def compact (decimal : Decimal) : String :=
  let power := ((Nat.toDigits 10 decimal.digits).length : Int) - 1 + decimal.scale
  if -5 ≤ power ∧ power ≤ 15 then decimal.positional else decimal.scientific

end Decimal

namespace Binary64

/-- A minus sign where the number is negative. -/
def signText (x : Binary64) : String := if x.negative then "-" else ""

/-- The shortest digits, with an exponent for very large and very small numbers. -/
def compactText (x : Binary64) : String := x.signText ++ (Decimal.shortest x).compact

/-- The shortest digits, always positional. -/
def positionalText (x : Binary64) : String := x.signText ++ (Decimal.shortest x).positional

end Binary64

end TopicRelay
