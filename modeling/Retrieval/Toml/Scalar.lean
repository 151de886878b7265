import Retrieval.Decimal.Nearest
import Retrieval.Text.Hexadecimal
import Retrieval.Toml.Value

namespace Retrieval.Toml.Reader

/-!
# Reading TOML scalars

Numbers, words and quoted strings.  A reader returns what it has read with the
characters that are left; what may follow a value is for the line or the array
around it to say, so a number ends where its digits end.
-/

/-- Read the rest of a run of digits, in which an underscore may stand between two digits. -/
def digitsAfter (isDigit : Char → Bool) : List Char → List Char × List Char
  | '_' :: c :: rest =>
      if isDigit c then
        let (digits, rest) := digitsAfter isDigit rest
        (c :: digits, rest)
      else
        ([], '_' :: c :: rest)
  | c :: rest =>
      if isDigit c then
        let (digits, rest) := digitsAfter isDigit rest
        (c :: digits, rest)
      else
        ([], c :: rest)
  | [] => ([], [])

/-- Read a run of digits, in which an underscore may stand between two digits. -/
def digits (isDigit : Char → Bool) : List Char → Option (List Char × List Char)
  | c :: rest =>
      if isDigit c then
        let (more, rest) := digitsAfter isDigit rest
        some (c :: more, rest)
      else
        none
  | [] => none

/-- Read the digits of a whole part: a zero alone, or digits that do not begin with zero. -/
def wholeDigits : List Char → Option (List Char × List Char)
  | '0' :: rest => some (['0'], rest)
  | input => digits Char.isDigit input

/-- Read a sign, if there is one, and say whether it is a minus. -/
def sign : List Char → Bool × List Char
  | '-' :: rest => (true, rest)
  | '+' :: rest => (false, rest)
  | input => (false, input)

/-- Read a point with digits behind it, if it is there. -/
def fraction? (input : List Char) : Option (List Char) × List Char :=
  match input with
  | '.' :: rest =>
      match digits Char.isDigit rest with
      | some (read, rest) => (some read, rest)
      | none => (none, input)
  | _ => (none, input)

/-- Read an exponent with its sign, if it is there. -/
def exponent? (input : List Char) : Option Int × List Char :=
  match input with
  | c :: rest =>
      if c = 'e' ∨ c = 'E' then
        let (negative, rest) := sign rest
        match digits Char.isDigit rest with
        | some (read, rest) =>
            let magnitude : Int := (Decimal.ofDigits read : Nat)
            (some (if negative then -magnitude else magnitude), rest)
        | none => (none, input)
      else
        (none, input)
  | [] => (none, [])

/-- The integer with a sign and a magnitude, if sixty-four bits hold it. -/
def integer? (negative : Bool) (magnitude : Nat) : Option Value :=
  let value : Int := if negative then -(magnitude : Int) else magnitude
  if Int64.minValue.toInt ≤ value ∧ value ≤ Int64.maxValue.toInt then
    some (.integer (Int64.ofInt value))
  else
    none

/-- A float, which must not be beyond the greatest one; what is below the least one is infinite. -/
def float? (negative : Bool) (significand : Nat) (exponent : Int) : Option Value :=
  let value := Decimal.nearest negative significand exponent
  if value.isFinite || negative then some (.float value) else none

/-- The float without a number for its value. -/
def notANumber : Float :=
  0.0 / 0.0

/-- Read the word for a special float after its sign. -/
def specialFloat (negative : Bool) (input : List Char) : Option (Value × List Char) :=
  match ['i', 'n', 'f'].isPrefixOf? input with
  | some rest => some (.float (if negative then -(1.0 / 0.0) else 1.0 / 0.0), rest)
  | none =>
      (['n', 'a', 'n'].isPrefixOf? input).map fun rest => (.float notANumber, rest)

/-- Read a number after its sign; it is a float if it has a fraction or an exponent. -/
def decimal (negative : Bool) (input : List Char) : Option (Value × List Char) := do
  let (whole, input) ← wholeDigits input
  let (fraction, input) := fraction? input
  let (exponent, input) := exponent? input
  match fraction, exponent with
  | none, none =>
      let read ← integer? negative (Decimal.ofDigits whole)
      some (read, input)
  | fraction, exponent =>
      let places := fraction.getD []
      let read ←
        float? negative (Decimal.ofDigits (whole ++ places))
          (exponent.getD 0 - (places.length : Int))
      some (read, input)

/-- A digit of base eight. -/
def isOctal (c : Char) : Bool :=
  '0' ≤ c && c ≤ '7'

/-- A digit of base two. -/
def isBinary (c : Char) : Bool :=
  c = '0' || c = '1'

/-- A digit of base sixteen, in either case. -/
def isHexadecimal (c : Char) : Bool :=
  (Text.hexValue? c).isSome

/-- Read the digits of an integer in a given base. -/
def inBase
    (base : Nat)
    (isDigit : Char → Bool)
    (input : List Char) :
    Option (Value × List Char) := do
  let (read, input) ← digits isDigit input
  let magnitude :=
    read.foldl (fun total c => total * base + (Text.hexValue? c).getD 0) 0
  let value ← integer? false magnitude
  some (value, input)

/-- Read a number, or a date and time. -/
def number (input : List Char) : Option (Value × List Char) :=
  match DateTime.Reader.dateTime input with
  | some (read, rest) => some (.dateTime read, rest)
  | none =>
      match input with
      | '0' :: 'x' :: rest => inBase 16 isHexadecimal rest
      | '0' :: 'o' :: rest => inBase 8 isOctal rest
      | '0' :: 'b' :: rest => inBase 2 isBinary rest
      | _ =>
          let (negative, rest) := sign input
          (specialFloat negative rest).or (decimal negative rest)

/-- A character that may stand in a comment, and in a string unless it ends or escapes it. -/
def isPlain (c : Char) : Bool :=
  c = '\t' || (0x20 ≤ c.toNat && c.toNat ≠ 0x7F)

/-- Drop the end of a line, which must stand at the front of the input. -/
def newline : List Char → Option (List Char)
  | '\n' :: rest => some rest
  | '\r' :: '\n' :: rest => some rest
  | _ => none

/-- Drop the end of a line, if the input begins with one. -/
def skipNewline (input : List Char) : List Char :=
  (newline input).getD input

/-- A blank within a line. -/
def isSpace (c : Char) : Bool :=
  c = ' ' || c = '\t'

/-- Drop the blanks in front of the next token of a line. -/
def skipSpaces (input : List Char) : List Char :=
  input.dropWhile isSpace

/-- Drop blanks and ends of lines. -/
def skipSpacesAndNewlines : List Char → List Char
  | '\r' :: '\n' :: rest => skipSpacesAndNewlines rest
  | c :: rest =>
      if isSpace c || c = '\n' then skipSpacesAndNewlines rest else c :: rest
  | [] => []

/-- Read a character that is named by its code point in a fixed count of hexadecimal digits. -/
def codePoint (count : Nat) (input : List Char) : Option (Char × List Char) := do
  let (code, rest) ← Text.hexNumber count 0 input
  if code.isValidChar then some (Char.ofNat code, rest) else none

/-- Read an escape in a string after its backslash. -/
def escape : List Char → Option (Char × List Char)
  | 'b' :: rest => some ('\x08', rest)
  | 'f' :: rest => some ('\x0c', rest)
  | 'n' :: rest => some ('\n', rest)
  | 'r' :: rest => some ('\r', rest)
  | 't' :: rest => some ('\t', rest)
  | '\\' :: rest => some ('\\', rest)
  | '"' :: rest => some ('"', rest)
  | 'u' :: rest => codePoint 4 rest
  | 'U' :: rest => codePoint 8 rest
  | _ => none

/-- Read the rest of a string between single quotes. -/
def literalTail : List Char → Option (List Char × List Char)
  | [] => none
  | '\'' :: rest => some ([], rest)
  | c :: rest =>
      if isPlain c then (literalTail rest).map fun (read, rest) => (c :: read, rest) else none

/-- Read the rest of a string between double quotes. -/
def basicTail : (fuel : Nat) → List Char → Option (List Char × List Char)
  | 0, _ => none
  | _ + 1, [] => none
  | _ + 1, '"' :: rest => some ([], rest)
  | fuel + 1, '\\' :: rest =>
      match escape rest with
      | some (c, rest) => (basicTail fuel rest).map fun (read, rest) => (c :: read, rest)
      | none => none
  | fuel + 1, c :: rest =>
      if isPlain c then
        (basicTail fuel rest).map fun (read, rest) => (c :: read, rest)
      else
        none

/-- Read the end of a string of several lines; two of its own quotes may stand before it. -/
def closing (quote : Char) : List Char → Option (List Char × List Char)
  | a :: b :: c :: d :: e :: rest =>
      if a = quote ∧ b = quote ∧ c = quote then
        if d = quote then
          if e = quote then
            some ([quote, quote], rest)
          else
            some ([quote], e :: rest)
        else
          some ([], d :: e :: rest)
      else
        none
  | [a, b, c, d] =>
      if a = quote ∧ b = quote ∧ c = quote then
        if d = quote then some ([quote], []) else some ([], [d])
      else
        none
  | [a, b, c] =>
      if a = quote ∧ b = quote ∧ c = quote then some ([], []) else none
  | _ => none

/-- Read the rest of a string of several lines between single quotes. -/
def literalLines : (fuel : Nat) → List Char → Option (List Char × List Char)
  | 0, _ => none
  | fuel + 1, input =>
      match closing '\'' input with
      | some ended => some ended
      | none =>
          match newline input, input with
          | some rest, _ =>
              (literalLines fuel rest).map fun (read, rest) => ('\n' :: read, rest)
          | none, c :: rest =>
              if isPlain c then
                (literalLines fuel rest).map fun (read, rest) => (c :: read, rest)
              else
                none
          | none, [] => none

/--
Read the rest of a string of several lines between double quotes; a backslash at
the end of a line joins it to the next text.
-/
def basicLines : (fuel : Nat) → List Char → Option (List Char × List Char)
  | 0, _ => none
  | fuel + 1, input =>
      match closing '"' input with
      | some ended => some ended
      | none =>
          match newline input, input with
          | some rest, _ =>
              (basicLines fuel rest).map fun (read, rest) => ('\n' :: read, rest)
          | none, '\\' :: rest =>
              match newline (skipSpaces rest) with
              | some rest => basicLines fuel (skipSpacesAndNewlines rest)
              | none =>
                  match escape rest with
                  | some (c, rest) =>
                      (basicLines fuel rest).map fun (read, rest) => (c :: read, rest)
                  | none => none
          | none, c :: rest =>
              if isPlain c then
                (basicLines fuel rest).map fun (read, rest) => (c :: read, rest)
              else
                none
          | none, [] => none

/-- Read a string of one line, whose kind its first quote tells. -/
def lineString : List Char → Option (String × List Char)
  | '"' :: rest =>
      (basicTail (rest.length + 1) rest).map fun (read, rest) => (String.ofList read, rest)
  | '\'' :: rest =>
      (literalTail rest).map fun (read, rest) => (String.ofList read, rest)
  | _ => none

/-- Read a string of one line or of several. -/
def string : List Char → Option (String × List Char)
  | '"' :: '"' :: '"' :: rest =>
      (basicLines (rest.length + 1) (skipNewline rest)).map
        fun (read, rest) => (String.ofList read, rest)
  | '\'' :: '\'' :: '\'' :: rest =>
      (literalLines (rest.length + 1) (skipNewline rest)).map
        fun (read, rest) => (String.ofList read, rest)
  | input => lineString input

end Retrieval.Toml.Reader
