import Retrieval.Query.Draft

namespace Retrieval

/-!
# Compiling drafts into requests

Without a strategy the query asks for the free text in the default field, or
for everything if there is no text, and the filters narrow it down.  The last
strategy of a draft replaces all of that by a query of its own.

The options of a search go before the window of the draft.  A page is counted
from one, page zero is read as the first, and the start of a page stops at the
greatest number that can be written.
-/

/-- What the engine contributes to a request. -/
structure CompileSettings where
  /-- The composite field that free text is matched against. -/
  defaultField : String
  debug : Bool
  profile : Bool
  deriving Repr, DecidableEq

namespace CompileSettings

/-- Free text is matched against all fields, and no report is asked for. -/
def initial : CompileSettings where
  defaultField := EngineSettings.initial.defaultField
  debug := false
  profile := false

/-- The part of the settings of an engine that matters to a request. -/
def ofEngine (settings : EngineSettings) : CompileSettings :=
  { initial with defaultField := settings.defaultField }

end CompileSettings

/-- Strategies that make up the body of a query from a finished draft. -/
class QueryStrategy (Strategy : Type) where
  body : Strategy → Draft Strategy → Json

/-- The query for a free text in a field; an empty text matches every document. -/
def textQuery (defaultField query : String) : Json :=
  if query.isEmpty then
    Json.single "match_all" Json.emptyObject
  else
    Json.single "match" (Json.single defaultField (.string query))

namespace Draft

variable {Strategy : Type}

/-- The strategy that makes up the query, if there is one. -/
def strategy? (draft : Draft Strategy) : Option Strategy :=
  draft.strategies.getLast?

/-- The body of the query that is made of the free text and the filters. -/
def standardBody (draft : Draft Strategy) (defaultField : String) : Json :=
  .object
    ((draft.filters.toJson?.map fun filters => ("filter", filters)).toList
      ++ [("must", textQuery defaultField draft.query)])

/-- The body of the query: what the last strategy makes, or else the text and the filters. -/
def queryBody
    [QueryStrategy Strategy]
    (draft : Draft Strategy)
    (defaultField : String) :
    Json :=
  match draft.strategy? with
  | some strategy => QueryStrategy.body strategy draft
  | none => draft.standardBody defaultField

end Draft

/-- The number of hits before a page, at most the greatest number of sixty-four bits. -/
def pageStart (page size : UInt64) : UInt64 :=
  UInt64.ofNat (min ((page.toNat - 1) * size.toNat) (UInt64.size - 1))

namespace Draft

variable {Strategy : Type}

/-- The greatest number of hits; the options go first. -/
def windowSize (draft : Draft Strategy) (options : SearchOptions) : Option UInt64 :=
  options.limit.or draft.limit

/-- The number of hits that are passed over; a page replaces the offset of the draft. -/
def windowStart (draft : Draft Strategy) (options : SearchOptions) : Option UInt64 :=
  match options.page with
  | some page => (draft.windowSize options).map (pageStart page)
  | none => draft.offset

/-- The finished search of a draft, with the options and settings that it is sent with. -/
def compile
    [QueryStrategy Strategy]
    (draft : Draft Strategy)
    (options : SearchOptions)
    (settings : CompileSettings) :
    SearchRequest where
  index := draft.target.index
  type := draft.target.type
  query := Json.single "bool" (draft.queryBody settings.defaultField)
  sort := draft.sort
  size := draft.windowSize options
  start := draft.windowStart options
  debug := settings.debug || draft.debug
  profile := settings.profile || draft.profile

/-- The finished search of a draft, without options and with the initial settings. -/
def build [QueryStrategy Strategy] (draft : Draft Strategy) : SearchRequest :=
  draft.compile SearchOptions.unset CompileSettings.initial

end Draft

end Retrieval
