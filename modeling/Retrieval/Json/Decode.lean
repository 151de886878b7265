import Retrieval.Json.Text
import Retrieval.Text.Quoted

namespace Retrieval

/-!
# Decoding JSON values into records

A record is read from an object, by the names of its fields, or from an array,
by their positions.  Fields that the record does not know are ignored.  When
several fields are at fault the first one decides: the least name in an object,
with missing fields after all others, and the first position in an array.
-/

/-- What a decoder looks for. -/
inductive Expectation where
  | unsigned
  | size
  | float
  | boolean
  | string
  | sequence
  | map
  | unit
  | stringOrMap
  | record (name : String)
  deriving Repr, DecidableEq

/-- The words for what a decoder looks for. -/
def Expectation.phrase : Expectation → String
  | .unsigned => "u64"
  | .size => "usize"
  | .float => "f64"
  | .boolean => "a boolean"
  | .string => "a string"
  | .sequence => "a sequence"
  | .map => "a map"
  | .unit => "unit"
  | .stringOrMap => "string or map"
  | .record name => "struct " ++ name

/-- Why a value cannot be decoded. -/
inductive DecodeError where
  /-- A value of one kind stands where another kind belongs. -/
  | wrongKind (found : Json) (expected : Expectation)
  /-- An integer is of the right kind and out of range. -/
  | outOfRange (found : Number) (expected : Expectation)
  /-- An object lacks a field that has no default. -/
  | missingField (name : String)
  /-- A word is none of the alternatives. -/
  | unknownVariant (found : String) (alternatives : List String)
  /-- An object that stands for one alternative has no key or several. -/
  | notOneKey
  /-- An array ends before the position of a field that has no default. -/
  | tooFewElements (position : Nat) (name : String) (width : Nat)
  /-- An array goes on after the last field. -/
  | tooManyElements (found : Nat)
  /-- A value has none of the forms of a type. -/
  | noForm (name : String)
  deriving Repr, DecidableEq

namespace DecodeError

/-- The words for a value in a message. -/
def describe : Json → String
  | .null => "null"
  | .boolean value => "boolean `" ++ toString value ++ "`"
  | .number (.float value) => "floating point `" ++ (Number.float value).text ++ "`"
  | .number value => "integer `" ++ value.text ++ "`"
  | .string value => "string " ++ Text.quoted value
  | .array _ => "sequence"
  | .object _ => "map"

/-- The words for the alternatives of a word; two of them are joined by `or`. -/
def alternativesPhrase : List String → String
  | [first, second] => "`" ++ first ++ "` or `" ++ second ++ "`"
  | names => "one of " ++ String.intercalate ", " (names.map fun name => "`" ++ name ++ "`")

/-- The words for a fault of decoding. -/
def message : DecodeError → String
  | .wrongKind found expected =>
      "invalid type: " ++ describe found ++ ", expected " ++ expected.phrase
  | .outOfRange found expected =>
      "invalid value: " ++ describe (.number found) ++ ", expected " ++ expected.phrase
  | .missingField name => "missing field `" ++ name ++ "`"
  | .unknownVariant found alternatives =>
      "unknown variant `" ++ found ++ "`, expected " ++ alternativesPhrase alternatives
  | .notOneKey => "invalid value: map, expected map with a single key"
  | .tooFewElements position name width =>
      "invalid length " ++ toString position ++ ", expected struct " ++ name
        ++ " with " ++ toString width ++ " elements"
  | .tooManyElements found =>
      "invalid length " ++ toString found ++ ", expected fewer elements in array"
  | .noForm name => "data did not match any variant of untagged enum " ++ name

end DecodeError

/-- What comes of decoding a value. -/
abbrev Decoded (α : Type) := Except DecodeError α

namespace Decode

/-- An integer of sixty-four bits that is not negative. -/
def unsigned (expected : Expectation) : Json → Decoded UInt64
  | .number (.natural value) => .ok value
  | .number (.negative value) => .error (.outOfRange (.negative value) expected)
  | found => .error (.wrongKind found expected)

/-- Any number, as a float. -/
def float : Json → Decoded Float
  | .number value => .ok value.toFloat
  | found => .error (.wrongKind found .float)

/-- A truth value. -/
def boolean : Json → Decoded Bool
  | .boolean value => .ok value
  | found => .error (.wrongKind found .boolean)

/-- A string, which no other value stands for. -/
def string : Json → Decoded String
  | .string value => .ok value
  | found => .error (.wrongKind found .string)

/-- The members of an object. -/
def members : Json → Decoded Members
  | .object held => .ok held
  | found => .error (.wrongKind found .map)

/-- Any value as it is, `null` among them. -/
def anything (value : Json) : Decoded Json :=
  .ok value

/-- Decode the items of a list until one fails. -/
def items (decode : Json → Decoded α) : List Json → Decoded (List α)
  | [] => .ok []
  | first :: rest => do
      let read ← decode first
      let others ← items decode rest
      return read :: others

/-- An array of values that decode alike. -/
def list (decode : Json → Decoded α) : Json → Decoded (List α)
  | .array held => items decode held
  | found => .error (.wrongKind found .sequence)

/-- `null` stands for an absent value. -/
def nullable (decode : Json → Decoded α) : Json → Decoded (Option α)
  | .null => .ok none
  | value => (decode value).map some

/-- The place that the fields of a record are read from. -/
inductive Source where
  | members (held : Members)
  | items (held : List Json)

/-- What is wrong with one field of a record. -/
structure Fault where
  name : String
  /-- The field is absent, which shows only when all others have been read. -/
  absent : Bool
  error : DecodeError
  deriving Repr, DecidableEq

namespace Source

/-- A record is read from an object or an array. -/
def ofJson (name : String) : Json → Decoded Source
  | .object held => .ok (.members held)
  | .array held => .ok (.items held)
  | found => .error (.wrongKind found (.record name))

/-- The value of a field, by its name or by its position. -/
def field? (source : Source) (name : String) (position : Nat) : Option Json :=
  match source with
  | .members held => Members.find? name held
  | .items held => held[position]?

/-- Decode a field that may be absent. -/
def optional
    (source : Source)
    (name : String)
    (position : Nat)
    (absent : α)
    (decode : Json → Decoded α) :
    Decoded α :=
  match source.field? name position with
  | some value => decode value
  | none => .ok absent

/-- Decode a field that must be present in a record of a given name and width. -/
def required
    (source : Source)
    (record : String)
    (width : Nat)
    (name : String)
    (position : Nat)
    (decode : Json → Decoded α) :
    Decoded α :=
  match source.field? name position with
  | some value => decode value
  | none =>
      match source with
      | .members _ => .error (.missingField name)
      | .items _ => .error (.tooFewElements position record width)

/-- The fault of a field, if its decoding failed. -/
def fault (source : Source) (name : String) (position : Nat) (read : Decoded α) : List Fault :=
  match read with
  | .ok _ => []
  | .error error =>
      [{ name := name, absent := (source.field? name position).isNone, error := error }]

end Source

/-- A fault is reported before another one in an object. -/
def Fault.before (left right : Fault) : Bool :=
  match left.absent, right.absent with
  | false, true => true
  | true, false => false
  | _, _ => left.name < right.name

/-- The fault of an object that is reported. -/
def leastFault : List Fault → Option Fault
  | [] => none
  | first :: rest =>
      match leastFault rest with
      | none => some first
      | some other => if Fault.before other first then some other else some first

/-- Report the deciding fault of the fields, given in the order of their positions. -/
def Source.check (source : Source) (width : Nat) (faults : List Fault) : Decoded Unit :=
  match source with
  | .members _ =>
      match leastFault faults with
      | some found => .error found.error
      | none => .ok ()
  | .items held =>
      match faults with
      | found :: _ => .error found.error
      | [] => if width < held.length then .error (.tooManyElements held.length) else .ok ()

end Decode

end Retrieval
