namespace Retrieval.Text

/-!
# Hexadecimal digits

Digits are written in lower case and read in either.
-/

/-- A digit of the hexadecimal system, in lower case. -/
def hexDigit (digit : Nat) : Char :=
  Nat.digitChar (digit % 16)

/-- The value of a hexadecimal digit in either case. -/
def hexValue? (c : Char) : Option Nat :=
  if '0' ≤ c ∧ c ≤ '9' then some (c.toNat - '0'.toNat)
  else if 'a' ≤ c ∧ c ≤ 'f' then some (c.toNat - 'a'.toNat + 10)
  else if 'A' ≤ c ∧ c ≤ 'F' then some (c.toNat - 'A'.toNat + 10)
  else none

/-- Read a fixed count of hexadecimal digits as a number. -/
def hexNumber : (count : Nat) → (total : Nat) → List Char → Option (Nat × List Char)
  | 0, total, input => some (total, input)
  | count + 1, total, c :: rest =>
      match hexValue? c with
      | some digit => hexNumber count (total * 16 + digit) rest
      | none => none
  | _ + 1, _, [] => none

end Retrieval.Text
