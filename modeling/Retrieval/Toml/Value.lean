import Retrieval.Json.Basic
import Retrieval.Toml.DateTime

namespace Retrieval.Toml

/-!
# TOML values

A table lists its members in the order in which they are written; no two have
the same key.
-/

/-- A value of a document. -/
inductive Value where
  | string (value : String)
  | integer (value : Int64)
  | float (value : Float)
  | boolean (value : Bool)
  | dateTime (value : DateTime)
  | array (items : List Value)
  | table (members : List (String × Value))
  deriving Repr, Inhabited

/-- The number of an integer, in the form that its sign asks for. -/
def numberOfInteger (value : Int64) : Number :=
  if value < 0 then .negative value else .natural value.toUInt64

/-- The one key of the object that stands for a date or a time. -/
def dateTimeKey : String :=
  "$__toml_private_datetime"

namespace Value

mutual

/-- The JSON form of a value; a date is an object, and the members of a table are ordered. -/
def toJson : Value → Json
  | .string value => .string value
  | .integer value => .number (numberOfInteger value)
  | .float value => Json.ofFloat value
  | .boolean value => .boolean value
  | .dateTime value => Json.single dateTimeKey (.string value.text)
  | .array items => .array (itemsToJson items)
  | .table members => .object (Members.ofList (membersToJson members))

/-- The JSON forms of the items of an array. -/
def itemsToJson : List Value → List Json
  | [] => []
  | item :: rest => item.toJson :: itemsToJson rest

/-- The JSON forms of the members of a table. -/
def membersToJson : List (String × Value) → List (String × Json)
  | [] => []
  | (key, value) :: rest => (key, value.toJson) :: membersToJson rest

end

end Value

end Retrieval.Toml
