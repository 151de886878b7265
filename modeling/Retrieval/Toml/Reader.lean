import Retrieval.Toml.Scalar
import Retrieval.Toml.Table

namespace Retrieval.Toml

/-!
# Reading TOML documents

A document is a sequence of lines: headers, assignments, comments and empty
ones.  Values may be nested in arrays and inline tables, and keys may have
parts, both to a fixed depth.
-/

namespace Reader

/-- The greatest depth of nested values, and the greatest number of parts of a key. -/
def nestingLimit : Nat := 79

/-- A character that may stand in a key without quotes. -/
def isBare (c : Char) : Bool :=
  c.isAlphanum || c = '-' || c = '_'

/-- Read one part of a key, with or without quotes. -/
def keyPart (input : List Char) : Option (String × List Char) :=
  match lineString input with
  | some read => some read
  | none =>
      match input.takeWhile isBare with
      | [] => none
      | letters => some (String.ofList letters, input.dropWhile isBare)

/-- Read the parts of a key, with a bound on their number. -/
def keyParts : (limit : Nat) → List Char → Option (Key × List Char)
  | 0, _ => none
  | limit + 1, input => do
      let (part, input) ← keyPart (skipSpaces input)
      match skipSpaces input with
      | '.' :: rest => do
          let (key, rest) ← keyParts limit rest
          some ({ path := part :: key.path, last := key.last }, rest)
      | rest => some ({ path := [], last := part }, rest)

/-- Read a key with its parts. -/
def key (input : List Char) : Option (Key × List Char) :=
  keyParts nestingLimit input

/-- Drop what may stand between the items of an array: blanks, ends of lines and comments. -/
def skipFiller : (inComment : Bool) → List Char → List Char
  | _, '\r' :: '\n' :: rest => skipFiller false rest
  | _, '\n' :: rest => skipFiller false rest
  | true, c :: rest => if isPlain c then skipFiller true rest else c :: rest
  | false, '#' :: rest => skipFiller true rest
  | false, c :: rest => if isSpace c then skipFiller false rest else c :: rest
  | _, [] => []

/-- Read the items of an array up to its closing bracket. -/
def arrayItems
    (read : List Char → Option (Value × List Char)) :
    (fuel : Nat) → List Char → Option (List Value × List Char)
  | 0, _ => none
  | fuel + 1, input =>
      match skipFiller false input with
      | ']' :: rest => some ([], rest)
      | input => do
          let (first, input) ← read input
          match skipFiller false input with
          | ',' :: rest => do
              let (others, rest) ← arrayItems read fuel rest
              some (first :: others, rest)
          | ']' :: rest => some ([first], rest)
          | _ => none

/-- Read a key, the sign after it and a value, with the blanks behind that. -/
def assignment
    (read : List Char → Option (Value × List Char))
    (input : List Char) :
    Option (Assignment × List Char) := do
  let (name, input) ← key input
  match input with
  | '=' :: rest => do
      let (value, rest) ← read (skipSpaces rest)
      some ({ key := name, value := value }, skipSpaces rest)
  | _ => none

/-- Read the assignments of an inline table up to its closing brace. -/
def inlineAssignments
    (read : List Char → Option (Value × List Char)) :
    (fuel : Nat) → List Char → Option (List Assignment × List Char)
  | 0, _ => none
  | fuel + 1, input => do
      let (first, input) ← assignment read input
      match input with
      | ',' :: rest => do
          let (others, rest) ← inlineAssignments read fuel rest
          some (first :: others, rest)
      | '\x7d' :: rest => some ([first], rest)
      | _ => none

/-- Read an inline table after its opening brace. -/
def braced
    (read : List Char → Option (Value × List Char))
    (input : List Char) :
    Option (Value × List Char) := do
  let (assignments, rest) ←
    match skipSpaces input with
    | '\x7d' :: rest => some ([], rest)
    | _ => inlineAssignments read (input.length + 1) input
  let value ← inlineTable assignments
  some (value, rest)

/-- Read a value that is neither an array nor an inline table. -/
def scalar (input : List Char) : Option (Value × List Char) :=
  match input with
  | '"' :: _ | '\'' :: _ => (string input).map fun (read, rest) => (.string read, rest)
  | 't' :: _ =>
      (['t', 'r', 'u', 'e'].isPrefixOf? input).map fun rest => (.boolean true, rest)
  | 'f' :: _ =>
      (['f', 'a', 'l', 's', 'e'].isPrefixOf? input).map fun rest => (.boolean false, rest)
  | _ => number input

/-- Read a value with at most a given depth of nested values. -/
def value : (depth : Nat) → List Char → Option (Value × List Char)
  | 0, input => scalar input
  | depth + 1, '[' :: rest =>
      (arrayItems (value depth) (rest.length + 1) rest).map
        fun (read, rest) => (.array read, rest)
  | depth + 1, '\x7b' :: rest => braced (value depth) rest
  | _ + 1, input => scalar input

/-- Read the end of a line after blanks and a comment; the last line may end with the input. -/
def lineEnd (input : List Char) : Option (List Char) :=
  let rest :=
    match skipSpaces input with
    | '#' :: comment => comment.dropWhile isPlain
    | rest => rest
  match rest with
  | [] => some []
  | _ => newline rest

/-- A line of a document that says something. -/
inductive Line where
  | header (key : Key) (element : Bool)
  | assignment (held : Assignment)

/-- Read a header after its first bracket; a second bracket opens an element of an array. -/
def header (input : List Char) : Option (Line × List Char) :=
  match input with
  | '[' :: rest => do
      let (name, rest) ← key rest
      match rest with
      | ']' :: ']' :: rest => some (.header name true, rest)
      | _ => none
  | _ => do
      let (name, rest) ← key input
      match rest with
      | ']' :: rest => some (.header name false, rest)
      | _ => none

/-- Read a header or an assignment. -/
def line (input : List Char) : Option (Line × List Char) :=
  match input with
  | '[' :: rest => header rest
  | _ =>
      (assignment (value nestingLimit) input).map
        fun (read, rest) => (.assignment read, rest)

/-- Read the lines of a document to its end, passing over comments and empty ones. -/
def lines : (fuel : Nat) → List Char → Option (List Line)
  | 0, _ => none
  | fuel + 1, input =>
      match skipSpaces input with
      | [] => some []
      | c :: rest =>
          if c = '#' ∨ c = '\n' ∨ c = '\r' then do
            let rest ← lineEnd (c :: rest)
            lines fuel rest
          else do
            let (first, rest) ← line (c :: rest)
            let rest ← lineEnd rest
            let others ← lines fuel rest
            some (first :: others)

/-- The assignments before the first header, and the sections that follow. -/
def sections : List Line → List Assignment × List Section
  | [] => ([], [])
  | .assignment held :: rest =>
      let (assignments, parts) := sections rest
      (held :: assignments, parts)
  | .header key element :: rest =>
      let (assignments, parts) := sections rest
      ([], { key := key, element := element, assignments := assignments } :: parts)

/-- Drop a byte order mark in front of a document. -/
def skipMark : List Char → List Char
  | '\ufeff' :: rest => rest
  | input => input

end Reader

/-- The members of the table that a text describes, if it is a TOML document. -/
def ofText? (input : String) : Option (List (String × Value)) := do
  let chars := Reader.skipMark input.toList
  let lines ← Reader.lines (chars.length + 1) chars
  let (assignments, parts) := Reader.sections lines
  documentTable assignments parts

end Retrieval.Toml
