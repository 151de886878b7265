namespace Retrieval.Decimal

/-!
# Floats nearest to decimals

A decimal with any number of digits is read as the nearest float.  Decimals far
outside the range of floats are decided by their magnitude alone, so that no
huge power of ten is ever computed.
-/

/-- The number that a list of decimal digits denotes. -/
def ofDigits (digits : List Char) : Nat :=
  digits.foldl (fun total c => total * 10 + (c.toNat - '0'.toNat)) 0

/-- From this power of ten on, up and down, a decimal is out of the range of floats. -/
def magnitudeLimit : Int := 400

/-- The float nearest to `significand * 10 ^ exponent`, infinite beyond the greatest one. -/
def nearestMagnitude (significand : Nat) (exponent : Int) : Float :=
  let magnitude := exponent + (toString significand).length
  if significand = 0 ∨ magnitude < -magnitudeLimit then
    0.0
  else if magnitudeLimit < magnitude then
    1.0 / 0.0
  else if 0 ≤ exponent then
    Float.ofScientific significand false exponent.toNat
  else
    Float.ofScientific significand true (-exponent).toNat

/-- The nearest float with a sign; zero has one too. -/
def nearest (negative : Bool) (significand : Nat) (exponent : Int) : Float :=
  let magnitude := nearestMagnitude significand exponent
  if negative then -magnitude else magnitude

end Retrieval.Decimal
