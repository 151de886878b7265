import Retrieval.Decimal.Shortest

namespace Retrieval.Decimal

/-!
# Laying out decimals as text

A layout says where positional writing ends and how an exponent is written.
The digits themselves come from `Retrieval.Decimal.Shortest`.
-/

/-- The choices that turn digits and an exponent into text. -/
structure Layout where
  /-- The least exponent of the leading digit that is written positionally. -/
  leastPositional : Int
  /-- The greatest exponent of the leading digit that is written positionally. -/
  greatestPositional : Int
  /-- What follows the digits of a whole number in positional writing. -/
  wholeSuffix : String
  /-- What announces an exponent that is not negative. -/
  raising : String
  /-- What announces a negative exponent, whose magnitude follows. -/
  lowering : String
  deriving Repr, DecidableEq

namespace Layout

/-- Write digits with a point after the first `count` of them, padding with zeros on either side. -/
def positional (layout : Layout) (digits : List Char) (exponent : Int) : String :=
  let whole : Int := (digits.length : Int) + exponent
  if 0 ≤ exponent then
    String.ofList (digits ++ List.replicate exponent.toNat '0') ++ layout.wholeSuffix
  else if 0 < whole then
    String.ofList (digits.take whole.toNat ++ '.' :: digits.drop whole.toNat)
  else
    String.ofList ('0' :: '.' :: (List.replicate (-whole).toNat '0' ++ digits))

/-- Write digits with a point after the first one and the exponent of that digit. -/
def scientific (layout : Layout) (digits : List Char) (leading : Int) : String :=
  let mantissa :=
    match digits with
    | first :: second :: rest => String.ofList (first :: '.' :: second :: rest)
    | few => String.ofList few
  if 0 ≤ leading then
    mantissa ++ layout.raising ++ toString leading.toNat
  else
    mantissa ++ layout.lowering ++ toString (-leading).toNat

/-- Write a decimal whose coefficient is positive. -/
def write (layout : Layout) (decimal : Scaled) : String :=
  let digits := Nat.toDigits 10 decimal.coefficient
  let leading : Int := (digits.length : Int) - 1 + decimal.exponent
  if layout.leastPositional ≤ leading ∧ leading ≤ layout.greatestPositional then
    layout.positional digits decimal.exponent
  else
    layout.scientific digits leading

/-- Write a finite double: its sign, then the shortest digits of its magnitude. -/
def writeFinite (layout : Layout) (value : Float) : String :=
  let bits := value.toBits.toNat
  let sign := if (bits >>> 63) % 2 = 1 then "-" else ""
  let magnitude := bits % (1 <<< 63)
  if magnitude = 0 then
    sign ++ "0" ++ layout.wholeSuffix
  else
    sign ++ layout.write (shortest (Dyadic.ofMagnitude magnitude))

end Layout

end Retrieval.Decimal
