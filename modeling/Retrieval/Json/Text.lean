import Retrieval.Json.Basic
import Retrieval.Decimal.Layout
import Retrieval.Text.Hexadecimal

namespace Retrieval

/-!
# Compact JSON text

Values are written without blanks.  Inside a string only the quote, the
backslash and the characters below the space are escaped; everything else is
written as it is.  Integers are written in full, and a float always shows that
it is one: it has a point or an exponent.
-/

namespace Number

/--
Floats are positional while their leading digit stands between the fifth
decimal place and the sixteenth place before the point, and whole floats keep
a zero after the point.
-/
def floatLayout : Decimal.Layout where
  leastPositional := -5
  greatestPositional := 15
  wholeSuffix := ".0"
  raising := "e+"
  lowering := "e-"

/-- The text of a number; that of a float has a point or an exponent. -/
def text : Number → String
  | .natural value => toString value.toNat
  | .negative value => toString value.toInt
  | .float value => floatLayout.writeFinite value

end Number

namespace Json

/-- The characters that stand for one character of a string. -/
def escapeChar (c : Char) : List Char :=
  match c with
  | '"' => ['\\', '"']
  | '\\' => ['\\', '\\']
  | '\x08' => ['\\', 'b']
  | '\x0c' => ['\\', 'f']
  | '\n' => ['\\', 'n']
  | '\r' => ['\\', 'r']
  | '\t' => ['\\', 't']
  | c =>
      if c.toNat < 0x20 then
        ['\\', 'u', '0', '0', Text.hexDigit (c.toNat / 16), Text.hexDigit c.toNat]
      else
        [c]

/-- A string between quotes. -/
def quote (value : String) : String :=
  String.ofList ('"' :: (value.toList.flatMap escapeChar ++ ['"']))

mutual

/-- The text of a value, without blanks. -/
def text : Json → String
  | .null => "null"
  | .boolean true => "true"
  | .boolean false => "false"
  | .number value => value.text
  | .string value => quote value
  | .array items => "[" ++ String.intercalate "," (textItems items) ++ "]"
  | .object members => "\x7b" ++ String.intercalate "," (textMembers members) ++ "\x7d"

/-- The texts of the items of an array. -/
def textItems : List Json → List String
  | [] => []
  | item :: rest => item.text :: textItems rest

/-- The texts of the members of an object, each a quoted key and a value. -/
def textMembers : List (String × Json) → List String
  | [] => []
  | (key, value) :: rest => (quote key ++ ":" ++ value.text) :: textMembers rest

end

/--
The text by which a value is known as a key: a string is its own text, and any
other value is known by its JSON text.
-/
def keyText : Json → String
  | .string value => value
  | value => value.text

end Json

end Retrieval
