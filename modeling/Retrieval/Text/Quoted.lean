import Retrieval.Text.Unprintable

namespace Retrieval.Text

/-!
# Quotations in messages

A message quotes a string so that every character can be recognised: quotes
and backslashes are escaped, the usual control characters have their letters,
and an unprintable character is named by its code point.
-/

/-- The characters that stand for one character of a quoted string. -/
def quotedChar (c : Char) : List Char :=
  match c with
  | '\x00' => ['\\', '0']
  | '\t' => ['\\', 't']
  | '\r' => ['\\', 'r']
  | '\n' => ['\\', 'n']
  | '\\' => ['\\', '\\']
  | '"' => ['\\', '"']
  | c =>
      if isUnprintable c then
        ['\\', 'u', '\x7b'] ++ Nat.toDigits 16 c.toNat ++ ['\x7d']
      else
        [c]

/-- A string between quotes, with its characters recognisable. -/
def quoted (value : String) : String :=
  String.ofList ('"' :: (value.toList.flatMap quotedChar ++ ['"']))

end Retrieval.Text
