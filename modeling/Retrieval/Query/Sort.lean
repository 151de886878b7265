import Retrieval.Json.Decode

namespace Retrieval

/-!
# Sort order

A search is sorted by a list of fields, each ascending or descending; an
earlier field takes priority over a later one.
-/

/-- Whether lesser values come first or greater ones. -/
inductive Direction where
  | ascending
  | descending
  deriving Repr, DecidableEq

namespace Direction

/-- The word for a direction in the query language. -/
def word : Direction → String
  | .ascending => "asc"
  | .descending => "desc"

/-- Read a direction; whatever is not the word for ascending, in any case, is descending. -/
def ofText (text : String) : Direction :=
  if text.toLower = Direction.ascending.word then .ascending else .descending

/-- The direction of an exact word. -/
def ofWord (word : String) : Decoded Direction :=
  if word = Direction.ascending.word then
    .ok .ascending
  else if word = Direction.descending.word then
    .ok .descending
  else
    .error (.unknownVariant word [Direction.ascending.word, Direction.descending.word])

/-- A direction is written as its word. -/
def toJson (direction : Direction) : Json :=
  .string direction.word

/-- Read a direction from its word, or from an object whose one key is the word and holds `null`. -/
def ofJson : Json → Decoded Direction
  | .string word => ofWord word
  | .object [(word, value)] => do
      let direction ← ofWord word
      match value with
      | .null => return direction
      | found => .error (.wrongKind found .unit)
  | .object _ => .error .notOneKey
  | found => .error (.wrongKind found .stringOrMap)

end Direction

/-- A field to sort by and its direction. -/
structure SortKey where
  field : String
  direction : Direction
  deriving Repr, DecidableEq

/-- The object with the field as its key and the direction under it. -/
def SortKey.toJson (sortKey : SortKey) : Json :=
  Json.single sortKey.field sortKey.direction.toJson

end Retrieval
