import Retrieval.Query.Draft

namespace Retrieval

/-!
# Inspecting drafts

The state of a draft on one line, for the eyes of a developer.  A record shows
its name and its fields, strings are quoted, and an optional value shows
whether it is there.
-/

namespace Inspect

/-- Shown items between brackets. -/
def list (items : List String) : String :=
  "[" ++ String.intercalate ", " items ++ "]"

/-- A record with its name, and its fields with their names. -/
def record (name : String) (fields : List (String × String)) : String :=
  name ++ " \x7b "
    ++ String.intercalate ", " (fields.map fun field => field.1 ++ ": " ++ field.2)
    ++ " \x7d"

/-- An optional value, which shows whether it is there. -/
def option : Option String → String
  | some value => "Some(" ++ value ++ ")"
  | none => "None"

mutual

/-- A JSON value, with the kind of each part. -/
def json : Json → String
  | .null => "Null"
  | .boolean value => "Bool(" ++ toString value ++ ")"
  | .number value => "Number(" ++ value.text ++ ")"
  | .string value => "String(" ++ Text.quoted value ++ ")"
  | .array items => "Array " ++ list (jsonItems items)
  | .object members =>
      "Object \x7b" ++ String.intercalate ", " (jsonMembers members) ++ "\x7d"

/-- The items of an array as they are shown. -/
def jsonItems : List Json → List String
  | [] => []
  | item :: rest => json item :: jsonItems rest

/-- The members of an object as they are shown, each with its quoted key. -/
def jsonMembers : List (String × Json) → List String
  | [] => []
  | (key, value) :: rest => (Text.quoted key ++ ": " ++ json value) :: jsonMembers rest

end

/-- The bounds of a range, those that are not set among them. -/
def bounds (held : Bounds) : String :=
  record "RangeBounds" [
    ("gt", option (held.above.map json)),
    ("gte", option (held.atLeast.map json)),
    ("lt", option (held.below.map json)),
    ("lte", option (held.atMost.map json))]

/-- A clause with its kind and its field. -/
def clause : Clause → String
  | .term field value =>
      record "Term" [("field", Text.quoted field), ("value", json value)]
  | .terms field values =>
      record "Terms" [("field", Text.quoted field), ("values", list (values.map json))]
  | .range field held =>
      record "Range" [("field", Text.quoted field), ("bounds", bounds held)]
  | .present field => record "Exists" [("field", Text.quoted field)]
  | .regexp field pattern flags =>
      record "Regexp" [
        ("field", Text.quoted field),
        ("pattern", Text.quoted pattern),
        ("flags", Text.quoted flags)]

/-- The clauses of both occurrences. -/
def filters (held : Filters) : String :=
  record "ClauseBucket" [
    ("must", list (held.must.map clause)),
    ("must_not", list (held.mustNot.map clause))]

/-- A direction by its short name. -/
def direction : Direction → String
  | .ascending => "Asc"
  | .descending => "Desc"

/-- A sort key with its field and its direction. -/
def sortKey (held : SortKey) : String :=
  record "SortField" [
    ("field", Text.quoted held.field),
    ("direction", direction held.direction)]

/-- The index and the document type that a search looks into. -/
def target (held : SearchTarget) : String :=
  record "SearchTarget" [
    ("index", Text.quoted held.index),
    ("doc_type", Text.quoted held.type)]

/-- A number in decimal digits. -/
def number (value : UInt64) : String :=
  toString value.toNat

end Inspect

/-- The state of a draft; of the strategies and the callback only their presence is shown. -/
def Draft.inspect (draft : Draft Strategy) : String :=
  Inspect.record "SearchBuilder" [
    ("target", Inspect.target draft.target),
    ("query", Text.quoted draft.query),
    ("clauses", Inspect.filters draft.filters),
    ("sort", Inspect.list (draft.sort.map Inspect.sortKey)),
    ("limit", Inspect.option (draft.limit.map Inspect.number)),
    ("offset", Inspect.option (draft.offset.map Inspect.number)),
    ("strategies", toString draft.strategies.length),
    ("callback", toString draft.callback.isSome),
    ("debug", toString draft.debug),
    ("profile", toString draft.profile)]

end Retrieval
