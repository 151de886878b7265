namespace Retrieval.Decimal

/-!
# Shortest decimals for binary fractions

A finite double is a natural significand times a power of two.  Every real
number strictly nearer to it than to its neighbours reads back as that double,
and so do the two half-way points when the significand is even.  This module
finds the decimal with the fewest digits in that interval, and the nearest one
to the double among those.

All arithmetic is exact and on natural numbers: a quantity is compared with
`coefficient * 10 ^ exponent` after both sides have been multiplied by the same
powers of two and ten.
-/

/-- A positive number written as `significand * 2 ^ exponent`. -/
structure Dyadic where
  significand : Nat
  exponent : Int
  /-- The neighbour below is only half as far away as the one above. -/
  tightBelow : Bool
  deriving Repr, DecidableEq

/-- The decimal `coefficient * 10 ^ exponent`. -/
structure Scaled where
  coefficient : Nat
  exponent : Int
  deriving Repr, DecidableEq

/-- A positive quotient of natural numbers. -/
structure Ratio where
  numerator : Nat
  denominator : Nat
  deriving Repr, DecidableEq

namespace Ratio

/-- `base ^ exponent`, a fraction when the exponent is negative. -/
def power (base : Nat) (exponent : Int) : Ratio :=
  if 0 ≤ exponent then
    ⟨Nat.pow base exponent.toNat, 1⟩
  else
    ⟨1, Nat.pow base (-exponent).toNat⟩

/-- The product of two quotients, not reduced. -/
def times (left right : Ratio) : Ratio :=
  ⟨left.numerator * right.numerator, left.denominator * right.denominator⟩

/-- A quotient multiplied by a natural number. -/
def scale (ratio : Ratio) (factor : Nat) : Ratio :=
  ⟨ratio.numerator * factor, ratio.denominator⟩

/-- The order of the quotients as real numbers. -/
def compare (left right : Ratio) : Ordering :=
  Ord.compare (left.numerator * right.denominator) (right.numerator * left.denominator)

/-- The whole part of a quotient. -/
def floor (ratio : Ratio) : Nat :=
  ratio.numerator / ratio.denominator

end Ratio

namespace Dyadic

/-- A quarter of the unit in which the significand counts. -/
def quarterUnit (value : Dyadic) : Ratio :=
  Ratio.power 2 (value.exponent - 2)

/-- The value as a quotient. -/
def ratio (value : Dyadic) : Ratio :=
  value.quarterUnit.scale (4 * value.significand)

/-- The lower end of the interval that reads back as the value. -/
def lowerEnd (value : Dyadic) : Ratio :=
  value.quarterUnit.scale (4 * value.significand - (if value.tightBelow then 1 else 2))

/-- The upper end of the interval that reads back as the value. -/
def upperEnd (value : Dyadic) : Ratio :=
  value.quarterUnit.scale (4 * value.significand + 2)

/-- The ends of the interval read back as the value exactly when its significand is even. -/
def readsBack (value : Dyadic) (candidate : Ratio) : Bool :=
  let below := value.lowerEnd.compare candidate
  let above := candidate.compare value.upperEnd
  if value.significand % 2 = 0 then
    below != .gt && above != .gt
  else
    below == .lt && above == .lt

end Dyadic

/-- How many decimal digits a natural number has; zero has one. -/
def digitCount (n : Nat) : Nat :=
  (Nat.toDigits 10 n).length

/-- The exponent of the leading decimal digit of a positive quotient. -/
def leadingExponent (ratio : Ratio) : Int :=
  let estimate : Int := (digitCount ratio.numerator : Int) - (digitCount ratio.denominator : Int)
  if (Ratio.power 10 estimate).compare ratio = .gt then estimate - 1 else estimate

namespace Scaled

/-- The decimal as a quotient. -/
def ratio (decimal : Scaled) : Ratio :=
  (Ratio.power 10 decimal.exponent).scale decimal.coefficient

/-- Move trailing zeros of the coefficient into the exponent, at most `fuel` of them. -/
def trim (decimal : Scaled) : (fuel : Nat) → Scaled
  | 0 => decimal
  | fuel + 1 =>
      if decimal.coefficient % 10 = 0 then
        trim ⟨decimal.coefficient / 10, decimal.exponent + 1⟩ fuel
      else
        decimal

end Scaled

/--
The nearer of a value's two neighbours on the grid of multiples of
`10 ^ exponent`, among those that read back as the value; an exact tie goes to
the even coefficient.
-/
def nearestOnGrid (value : Dyadic) (exponent : Int) : Option Scaled :=
  let quotient := value.ratio.times (Ratio.power 10 (-exponent))
  let low : Scaled := ⟨quotient.floor, exponent⟩
  let high : Scaled := ⟨quotient.floor + 1, exponent⟩
  match value.readsBack low.ratio, value.readsBack high.ratio with
  | true, true =>
      let twiceRemainder := 2 * (quotient.numerator % quotient.denominator)
      match Ord.compare twiceRemainder quotient.denominator with
      | .lt => some low
      | .gt => some high
      | .eq => if low.coefficient % 2 = 0 then some low else some high
  | true, false => some low
  | false, true => some high
  | false, false => none

/-- Seventeen digits always suffice for a double. -/
def digitLimit : Nat := 17

/-- The fewest digits, at most `digitLimit`, that read back as the value. -/
def shortest (value : Dyadic) : Scaled :=
  let leading := leadingExponent value.ratio
  let grids := (List.range digitLimit).map fun (extra : Nat) => leading - Int.ofNat extra
  match grids.findSome? (nearestOnGrid value) with
  | some decimal => decimal.trim digitLimit
  | none => ⟨value.ratio.floor, 0⟩

/-- The positive dyadic with the magnitude of a finite nonzero double. -/
def Dyadic.ofMagnitude (bits : Nat) : Dyadic :=
  let fraction : Nat := bits % (1 <<< 52)
  let biased : Nat := (bits >>> 52) % (1 <<< 11)
  if biased = 0 then
    ⟨fraction, -1074, false⟩
  else
    ⟨(1 <<< 52) + fraction, (biased : Int) - 1075, fraction = 0 && biased != 1⟩

end Retrieval.Decimal
