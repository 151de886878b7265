import Retrieval.Decimal.Nearest
import Retrieval.Json.Basic
import Retrieval.Text.Hexadecimal

namespace Retrieval

/-!
# Reading JSON text

A reader takes a list of characters and returns what it has read together with
the characters that are left, or nothing when the text does not start with
what it looks for.  Objects come out ordered by key, and a repeated key keeps
its last value.

A number without a fraction or exponent is an integer when sixty-four bits
hold it.  All other numbers are floats, and so is a negative zero, which no
integer can express.
-/

namespace Json.Reader

/-- A character that may stand between any two tokens. -/
def isBlank (c : Char) : Bool :=
  c = ' ' || c = '\t' || c = '\n' || c = '\r'

/-- Drop the blanks in front of the next token. -/
def skipBlanks (input : List Char) : List Char :=
  input.dropWhile isBlank

/-- Drop the characters of a word from the front of the input, where they must stand. -/
def word : (expected input : List Char) → Option (List Char)
  | [], input => some input
  | _ :: _, [] => none
  | c :: expected, d :: input => if c = d then word expected input else none

/-- Read the part of a `\u` escape after its `u`; a high surrogate needs a low one behind it. -/
def unicodeEscape (input : List Char) : Option (Char × List Char) := do
  let (unit, rest) ← Text.hexNumber 4 0 input
  if 0xD800 ≤ unit ∧ unit < 0xDC00 then
    match rest with
    | '\\' :: 'u' :: rest =>
        let (low, rest) ← Text.hexNumber 4 0 rest
        if 0xDC00 ≤ low ∧ low < 0xE000 then
          some (Char.ofNat (0x10000 + (unit - 0xD800) * 0x400 + (low - 0xDC00)), rest)
        else
          none
    | _ => none
  else if 0xDC00 ≤ unit ∧ unit < 0xE000 then
    none
  else
    some (Char.ofNat unit, rest)

/-- Read an escape in a string after its backslash. -/
def escape : List Char → Option (Char × List Char)
  | '"' :: rest => some ('"', rest)
  | '\\' :: rest => some ('\\', rest)
  | '/' :: rest => some ('/', rest)
  | 'b' :: rest => some ('\x08', rest)
  | 'f' :: rest => some ('\x0c', rest)
  | 'n' :: rest => some ('\n', rest)
  | 'r' :: rest => some ('\r', rest)
  | 't' :: rest => some ('\t', rest)
  | 'u' :: rest => unicodeEscape rest
  | _ => none

/-- Read a string after its opening quote, the characters read so far in reverse. -/
def stringTail : (fuel : Nat) → (read : List Char) → List Char → Option (String × List Char)
  | 0, _, _ => none
  | _ + 1, _, [] => none
  | _ + 1, read, '"' :: rest => some (String.ofList read.reverse, rest)
  | fuel + 1, read, '\\' :: rest =>
      match escape rest with
      | some (c, rest) => stringTail fuel (c :: read) rest
      | none => none
  | fuel + 1, read, c :: rest =>
      if c.toNat < 0x20 then none else stringTail fuel (c :: read) rest

/-- The number of an integer literal, as an integer if sixty-four bits hold it. -/
def integerNumber (negative : Bool) (magnitude : Nat) : Number :=
  if negative then
    if magnitude = 0 ∨ -(magnitude : Int) < Int64.minValue.toInt then
      .float (Decimal.nearest true magnitude 0)
    else
      .negative (Int64.ofInt (-(magnitude : Int)))
  else if magnitude < UInt64.size then
    .natural (UInt64.ofNat magnitude)
  else
    .float (Decimal.nearest false magnitude 0)

/-- Read the digits of an integer part, which has no leading zero. -/
def integerDigits (input : List Char) : Option (List Char × List Char) :=
  let digits := input.takeWhile Char.isDigit
  match digits with
  | [] => none
  | '0' :: _ :: _ => none
  | _ => some (digits, input.dropWhile Char.isDigit)

/-- Read the digits after a point; there is at least one, unless there is no point. -/
def fractionDigits : List Char → Option (List Char × List Char)
  | '.' :: rest =>
      match rest.takeWhile Char.isDigit with
      | [] => none
      | digits => some (digits, rest.dropWhile Char.isDigit)
  | input => some ([], input)

/-- Read a sign, if there is one, and say whether it was a minus. -/
def signOf : List Char → Bool × List Char
  | '-' :: rest => (true, rest)
  | '+' :: rest => (false, rest)
  | input => (false, input)

/-- Read an exponent, if there is one; it has at least one digit. -/
def exponentOf : List Char → Option (Option Int × List Char)
  | c :: rest =>
      if c = 'e' ∨ c = 'E' then
        let (negative, rest) := signOf rest
        match rest.takeWhile Char.isDigit with
        | [] => none
        | digits =>
            let magnitude : Int := (Decimal.ofDigits digits : Nat)
            some (some (if negative then -magnitude else magnitude), rest.dropWhile Char.isDigit)
      else
        some (none, c :: rest)
  | [] => some (none, [])

/-- Read a number after its sign; a number beyond the range of floats is refused. -/
def numberTail (negative : Bool) (input : List Char) : Option (Number × List Char) := do
  let (whole, input) ← integerDigits input
  let (fraction, input) ← fractionDigits input
  let (exponent, input) ← exponentOf input
  let number :=
    match fraction, exponent with
    | [], none => integerNumber negative (Decimal.ofDigits whole)
    | fraction, exponent =>
        let significand := Decimal.ofDigits (whole ++ fraction)
        .float
          (Decimal.nearest negative significand
            (exponent.getD 0 - (fraction.length : Int)))
  if number.isFinite then some (number, input) else none

mutual

/-- Read a value; every step into a nested value spends one unit of fuel. -/
def value : (fuel : Nat) → List Char → Option (Json × List Char)
  | 0, _ => none
  | fuel + 1, input =>
      match skipBlanks input with
      | '"' :: rest => (stringTail (rest.length + 1) [] rest).map fun (s, rest) => (.string s, rest)
      | '[' :: rest =>
          match skipBlanks rest with
          | ']' :: rest => some (.array [], rest)
          | rest => (items fuel rest).map fun (read, rest) => (.array read, rest)
      | '\x7b' :: rest =>
          match skipBlanks rest with
          | '\x7d' :: rest => some (.object [], rest)
          | rest => (members fuel rest).map fun (read, rest) => (.object (Members.ofList read), rest)
      | '-' :: rest => (numberTail true rest).map fun (n, rest) => (.number n, rest)
      | 't' :: rest => (word ['r', 'u', 'e'] rest).map fun rest => (.boolean true, rest)
      | 'f' :: rest => (word ['a', 'l', 's', 'e'] rest).map fun rest => (.boolean false, rest)
      | 'n' :: rest => (word ['u', 'l', 'l'] rest).map fun rest => (.null, rest)
      | rest => (numberTail false rest).map fun (n, rest) => (.number n, rest)

/-- Read the items of an array up to its closing bracket. -/
def items : (fuel : Nat) → List Char → Option (List Json × List Char)
  | 0, _ => none
  | fuel + 1, input =>
      match value fuel input with
      | none => none
      | some (first, rest) =>
          match skipBlanks rest with
          | ',' :: rest => (items fuel rest).map fun (read, rest) => (first :: read, rest)
          | ']' :: rest => some ([first], rest)
          | _ => none

/-- Read the members of an object up to its closing brace. -/
def members : (fuel : Nat) → List Char → Option (List (String × Json) × List Char)
  | 0, _ => none
  | fuel + 1, input =>
      match skipBlanks input with
      | '"' :: rest =>
          match stringTail (rest.length + 1) [] rest with
          | none => none
          | some (key, rest) =>
              match skipBlanks rest with
              | ':' :: rest =>
                  match value fuel rest with
                  | none => none
                  | some (held, rest) =>
                      match skipBlanks rest with
                      | ',' :: rest =>
                          (members fuel rest).map fun (read, rest) => ((key, held) :: read, rest)
                      | '\x7d' :: rest => some ([(key, held)], rest)
                      | _ => none
              | _ => none
      | _ => none

end

end Json.Reader

/-- The value of a text that holds one value and, around it, only blanks. -/
def Json.ofText? (input : String) : Option Json :=
  let chars := input.toList
  match Json.Reader.value (2 * chars.length + 1) chars with
  | some (read, rest) => if (Json.Reader.skipBlanks rest).isEmpty then some read else none
  | none => none

end Retrieval
