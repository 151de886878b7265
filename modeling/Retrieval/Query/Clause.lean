import Retrieval.Json.Basic

namespace Retrieval

/-!
# Filter clauses

A clause restricts the documents of a search by one field.  The filters of a
search hold the clauses that must hold and the clauses that must not, each in
the order in which they were added.
-/

/-- The bounds of a range; a bound that is not set does not restrict. -/
structure Bounds where
  above : Option Json
  atLeast : Option Json
  below : Option Json
  atMost : Option Json
  deriving Repr, DecidableEq

namespace Bounds

/-- No bound is set, so every value is within them. -/
def unset : Bounds where
  above := none
  atLeast := none
  below := none
  atMost := none

/-- The values greater than a bound. -/
def onlyAbove (value : Json) : Bounds :=
  { unset with above := some value }

/-- The values that reach a bound. -/
def onlyFrom (value : Json) : Bounds :=
  { unset with atLeast := some value }

/-- The values less than a bound. -/
def onlyBelow (value : Json) : Bounds :=
  { unset with below := some value }

/-- The values that do not pass a bound. -/
def onlyUpTo (value : Json) : Bounds :=
  { unset with atMost := some value }

/-- The values from a low bound up to a high one, both included; they are not compared. -/
def between (low high : Json) : Bounds :=
  { unset with atLeast := some low, atMost := some high }

/-- The bounds that are set, in the order of their keys. -/
def toMembers (bounds : Bounds) : Members :=
  (bounds.above.map fun value => ("gt", value)).toList
    ++ (bounds.atLeast.map fun value => ("gte", value)).toList
    ++ (bounds.below.map fun value => ("lt", value)).toList
    ++ (bounds.atMost.map fun value => ("lte", value)).toList

/-- The object of the bounds that are set. -/
def toJson (bounds : Bounds) : Json :=
  .object bounds.toMembers

end Bounds

/-- A condition on one field. -/
inductive Clause where
  /-- The field has a value. -/
  | term (field : String) (value : Json)
  /-- The field has one of several values. -/
  | terms (field : String) (values : List Json)
  /-- The value of the field keeps to bounds. -/
  | range (field : String) (bounds : Bounds)
  /-- The field has any value. -/
  | present (field : String)
  /-- The value of the field matches a regular expression, read with flags. -/
  | regexp (field pattern flags : String)
  deriving Repr, DecidableEq

namespace Clause

/-- The field that a clause restricts. -/
def field : Clause → String
  | .term field _ => field
  | .terms field _ => field
  | .range field _ => field
  | .present field => field
  | .regexp field _ _ => field

/-- The clause in the query language: an object with the kind of the clause as its key. -/
def toJson : Clause → Json
  | .term field value => Json.single "term" (Json.single field value)
  | .terms field values => Json.single "terms" (Json.single field (.array values))
  | .range field bounds => Json.single "range" (Json.single field bounds.toJson)
  | .present field => Json.single "exists" (Json.single "field" (.string field))
  | .regexp field pattern flags =>
      Json.single "regexp"
        (Json.single field (.object [("flags", .string flags), ("value", .string pattern)]))

end Clause

/-- Whether the matching documents are kept or left out. -/
inductive Occurrence where
  | must
  | mustNot
  deriving Repr, DecidableEq

/-- The word for an occurrence in the query language. -/
def Occurrence.key : Occurrence → String
  | .must => "must"
  | .mustNot => "must_not"

/-- The clauses that must hold and those that must not. -/
structure Filters where
  must : List Clause
  mustNot : List Clause
  deriving Repr, DecidableEq

namespace Filters

/-- The filters of a search that is not restricted. -/
def empty : Filters where
  must := []
  mustNot := []

/-- Add a clause after the clauses of its occurrence. -/
def push (filters : Filters) (occurrence : Occurrence) (clause : Clause) : Filters :=
  match occurrence with
  | .must => { filters with must := filters.must ++ [clause] }
  | .mustNot => { filters with mustNot := filters.mustNot ++ [clause] }

/-- There is no clause of either occurrence. -/
def isEmpty (filters : Filters) : Bool :=
  filters.must.isEmpty && filters.mustNot.isEmpty

/-- The number of clauses of both occurrences. -/
def length (filters : Filters) : Nat :=
  filters.must.length + filters.mustNot.length

/-- The member for the clauses of one occurrence, left out when there are none. -/
def side (occurrence : Occurrence) (clauses : List Clause) : Members :=
  if clauses.isEmpty then
    []
  else
    [(occurrence.key, .array (clauses.map Clause.toJson))]

/-- The filters in the query language, absent when there is no clause. -/
def toJson? (filters : Filters) : Option Json :=
  if filters.isEmpty then
    none
  else
    some (Json.single "bool"
      (.object (side .must filters.must ++ side .mustNot filters.mustNot)))

/-- A clause that must hold adds to one side alone. -/
@[simp] theorem push_must (filters : Filters) (clause : Clause) :
    filters.push .must clause = ⟨filters.must ++ [clause], filters.mustNot⟩ :=
  rfl

/-- A clause that must not hold adds to the other side alone. -/
@[simp] theorem push_mustNot (filters : Filters) (clause : Clause) :
    filters.push .mustNot clause = ⟨filters.must, filters.mustNot ++ [clause]⟩ :=
  rfl

end Filters

end Retrieval
