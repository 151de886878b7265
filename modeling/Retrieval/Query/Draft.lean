import Retrieval.Query.Comparison
import Retrieval.Transport.Dialogue

namespace Retrieval

/-!
# Drafts of searches

A search is put together by calls on a draft: filters, a sort order, a window,
and flags.  A draft also takes strategies, each of which can make up the whole
query from the finished draft, and a callback, which can carry out the search
by itself.

The type of strategies is a parameter, so that a draft can be handed to the
strategies that it holds.
-/

/-- The index and the document type that a search looks into. -/
structure SearchTarget where
  index : String
  type : String
  deriving Repr, DecidableEq

/-- The target of a record type, which must be addressable. -/
def SearchTarget.ofRecord [Indexable Record] (record : Record) : Except Error SearchTarget := do
  let envelope ← Envelope.forType record
  return { index := envelope.index, type := envelope.type.getD "" }

/-- A search of one's own, made from the free text and the options of a search. -/
abbrev Callback := String → SearchOptions → Action Response

/-- A search that is being put together. -/
structure Draft (Strategy : Type) where
  target : SearchTarget
  /-- The free text; an empty one matches everything. -/
  query : String
  filters : Filters
  sort : List SortKey
  limit : Option UInt64
  offset : Option UInt64
  strategies : List Strategy
  callback : Option Callback
  debug : Bool
  profile : Bool

namespace Draft

variable {Strategy : Type}

/-- A draft with nothing but its free text. -/
def start (target : SearchTarget) (query : String) : Draft Strategy where
  target := target
  query := query
  filters := Filters.empty
  sort := []
  limit := none
  offset := none
  strategies := []
  callback := none
  debug := false
  profile := false

/-- A draft for the type of a record. -/
def forRecord
    [Indexable Record]
    (record : Record)
    (query : String) :
    Except Error (Draft Strategy) := do
  let target ← SearchTarget.ofRecord record
  return start target query

/-- Add a clause to the filters. -/
def restrict
    (draft : Draft Strategy)
    (occurrence : Occurrence)
    (clause : Clause) :
    Draft Strategy :=
  { draft with filters := draft.filters.push occurrence clause }

/-- Compare a field with a value. -/
def filterWith
    (draft : Draft Strategy)
    (field : String)
    (comparison : Comparison)
    (value : Json) :
    Draft Strategy :=
  draft.restrict comparison.occurrence (comparison.clause field value)

/-- Keep the documents in which a field has a value. -/
def filter (draft : Draft Strategy) (field : String) (value : Json) : Draft Strategy :=
  draft.filterWith field .equal value

/-- Compare a field with a value by a symbol; an unknown symbol adds nothing and is noticed. -/
def filterBySymbol
    (draft : Draft Strategy)
    (field symbol : String)
    (value : Json) :
    Draft Strategy × List Notice :=
  match Comparison.ofSymbol symbol with
  | .ok comparison => (draft.filterWith field comparison value, [])
  | .error cause => (draft, [.filterIgnored field cause])

/-- Keep the documents in which a field has one of several values. -/
def filterIn (draft : Draft Strategy) (field : String) (values : List Json) : Draft Strategy :=
  draft.restrict .must (.terms field values)

/-- Leave out the documents in which a field has one of several values. -/
def filterNotIn (draft : Draft Strategy) (field : String) (values : List Json) : Draft Strategy :=
  draft.restrict .mustNot (.terms field values)

/-- Keep the documents in which a field is between two values. -/
def filterBetween (draft : Draft Strategy) (field : String) (low high : Json) : Draft Strategy :=
  draft.restrict .must (.range field (.between low high))

/-- Leave out the documents in which a field is between two values. -/
def filterNotBetween (draft : Draft Strategy) (field : String) (low high : Json) : Draft Strategy :=
  draft.restrict .mustNot (.range field (.between low high))

/-- Keep the documents in which a field has any value. -/
def filterPresent (draft : Draft Strategy) (field : String) : Draft Strategy :=
  draft.restrict .must (.present field)

/-- Leave out the documents in which a field has any value. -/
def filterAbsent (draft : Draft Strategy) (field : String) : Draft Strategy :=
  draft.restrict .mustNot (.present field)

/-- Keep the documents in which a field matches a regular expression, read with given flags. -/
def filterRegexpWithFlags
    (draft : Draft Strategy)
    (field pattern flags : String) :
    Draft Strategy :=
  draft.restrict .must (.regexp field pattern flags)

/-- Keep the documents in which a field matches a regular expression, read with all flags. -/
def filterRegexp (draft : Draft Strategy) (field pattern : String) : Draft Strategy :=
  draft.filterRegexpWithFlags field pattern "ALL"

/-- Sort by a field after the fields that are sorted by already. -/
def sortBy (draft : Draft Strategy) (field : String) (direction : Direction) : Draft Strategy :=
  { draft with sort := draft.sort ++ [{ field := field, direction := direction }] }

/-- Set the greatest number of hits. -/
def take (draft : Draft Strategy) (limit : UInt64) : Draft Strategy :=
  { draft with limit := some limit }

/-- Set the number of hits that are passed over. -/
def skip (draft : Draft Strategy) (offset : UInt64) : Draft Strategy :=
  { draft with offset := some offset }

/-- Add a strategy; the last one makes up the query. -/
def withStrategy (draft : Draft Strategy) (strategy : Strategy) : Draft Strategy :=
  { draft with strategies := draft.strategies ++ [strategy] }

/-- Hand the search over to a callback. -/
def withCallback (draft : Draft Strategy) (callback : Callback) : Draft Strategy :=
  { draft with callback := some callback }

/-- Ask for explanations of the scores, or do not. -/
def setDebug (draft : Draft Strategy) (enabled : Bool) : Draft Strategy :=
  { draft with debug := enabled }

/-- Ask for the timing of the search, or do not. -/
def setProfile (draft : Draft Strategy) (enabled : Bool) : Draft Strategy :=
  { draft with profile := enabled }

/-- A call on a draft. -/
inductive Call (Strategy : Type) where
  | filter (field : String) (value : Json)
  | filterWith (field : String) (comparison : Comparison) (value : Json)
  | filterBySymbol (field symbol : String) (value : Json)
  | filterIn (field : String) (values : List Json)
  | filterNotIn (field : String) (values : List Json)
  | filterBetween (field : String) (low high : Json)
  | filterNotBetween (field : String) (low high : Json)
  | filterPresent (field : String)
  | filterAbsent (field : String)
  | filterRegexp (field pattern : String)
  | filterRegexpWithFlags (field pattern flags : String)
  | sortBy (field : String) (direction : Direction)
  | take (limit : UInt64)
  | skip (offset : UInt64)
  | withStrategy (strategy : Strategy)
  | withCallback (callback : Callback)
  | setDebug (enabled : Bool)
  | setProfile (enabled : Bool)

/-- Perform a call; only the filter by a symbol may have something to say. -/
def perform (draft : Draft Strategy) : Call Strategy → Draft Strategy × List Notice
  | .filter field value => (draft.filter field value, [])
  | .filterWith field comparison value => (draft.filterWith field comparison value, [])
  | .filterBySymbol field symbol value => draft.filterBySymbol field symbol value
  | .filterIn field values => (draft.filterIn field values, [])
  | .filterNotIn field values => (draft.filterNotIn field values, [])
  | .filterBetween field low high => (draft.filterBetween field low high, [])
  | .filterNotBetween field low high => (draft.filterNotBetween field low high, [])
  | .filterPresent field => (draft.filterPresent field, [])
  | .filterAbsent field => (draft.filterAbsent field, [])
  | .filterRegexp field pattern => (draft.filterRegexp field pattern, [])
  | .filterRegexpWithFlags field pattern flags =>
      (draft.filterRegexpWithFlags field pattern flags, [])
  | .sortBy field direction => (draft.sortBy field direction, [])
  | .take limit => (draft.take limit, [])
  | .skip offset => (draft.skip offset, [])
  | .withStrategy strategy => (draft.withStrategy strategy, [])
  | .withCallback callback => (draft.withCallback callback, [])
  | .setDebug enabled => (draft.setDebug enabled, [])
  | .setProfile enabled => (draft.setProfile enabled, [])

end Draft

end Retrieval
