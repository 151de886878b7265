import Retrieval.Json.Decode

namespace Retrieval

/-!
# Settings

How an engine searches and maps its results, and which part of the results a
single search asks for.  Both are records of JSON; a field that is left out
takes its default.
-/

/-- How an engine searches and shows results. -/
structure EngineSettings where
  /-- The composite field that free text is matched against. -/
  defaultField : String
  /-- Results show the stored fields of the hits, and no record is loaded. -/
  rawResult : Bool
  /-- The only fields that results show, or all fields. -/
  fields : Option (List String)
  /-- The type mapping is pushed before the next update. -/
  updateMapping : Bool
  deriving Repr, DecidableEq

namespace EngineSettings

/-- Free text is matched against all fields, and records are loaded whole. -/
def initial : EngineSettings where
  defaultField := "_all"
  rawResult := false
  fields := none
  updateMapping := false

/-- The settings with another field for free text. -/
def withDefaultField (settings : EngineSettings) (field : String) : EngineSettings :=
  { settings with defaultField := field }

/-- The settings with results as stored fields, or as records. -/
def withRawResult (settings : EngineSettings) (raw : Bool) : EngineSettings :=
  { settings with rawResult := raw }

/-- The settings with results restricted to some fields. -/
def withFields (settings : EngineSettings) (fields : List String) : EngineSettings :=
  { settings with fields := some fields }

/-- The settings with the mapping pushed before the next update, or not. -/
def withUpdateMapping (settings : EngineSettings) (push : Bool) : EngineSettings :=
  { settings with updateMapping := push }

/-- The JSON record of the settings, with all of its members. -/
def toJson (settings : EngineSettings) : Json :=
  .object [
    ("default_field", .string settings.defaultField),
    ("raw_result", .boolean settings.rawResult),
    ("fields", Json.ofOption (settings.fields.map Json.ofStrings)),
    ("update_mapping", .boolean settings.updateMapping)]

/-- Read settings from a JSON record; each member that is left out takes its default. -/
def ofJson (value : Json) : Decoded EngineSettings := do
  let source ← Decode.Source.ofJson "EngineConfig" value
  let defaultField := source.optional "default_field" 0 initial.defaultField Decode.string
  let rawResult := source.optional "raw_result" 1 initial.rawResult Decode.boolean
  let fields :=
    source.optional "fields" 2 initial.fields (Decode.nullable (Decode.list Decode.string))
  let updateMapping :=
    source.optional "update_mapping" 3 initial.updateMapping Decode.boolean
  source.check 4
    (source.fault "default_field" 0 defaultField
      ++ source.fault "raw_result" 1 rawResult
      ++ source.fault "fields" 2 fields
      ++ source.fault "update_mapping" 3 updateMapping)
  return {
    defaultField := ← defaultField
    rawResult := ← rawResult
    fields := ← fields
    updateMapping := ← updateMapping }

end EngineSettings

/-- The part of the results that a search asks for. -/
structure SearchOptions where
  /-- The greatest number of hits. -/
  limit : Option UInt64
  /-- The page, counted from one, in units of the number of hits. -/
  page : Option UInt64
  deriving Repr, DecidableEq

namespace SearchOptions

/-- A search that leaves the window to the draft. -/
def unset : SearchOptions where
  limit := none
  page := none

/-- One page of a given number of hits. -/
def paginate (perPage page : UInt64) : SearchOptions where
  limit := some perPage
  page := some page

/-- The JSON record of the options; an option that is not set is left out. -/
def toJson (options : SearchOptions) : Json :=
  .object
    ((options.limit.map fun limit => ("limit", Json.ofUInt64 limit)).toList
      ++ (options.page.map fun page => ("page", Json.ofUInt64 page)).toList)

/-- Read options from a JSON record; an option that is left out or `null` is not set. -/
def ofJson (value : Json) : Decoded SearchOptions := do
  let source ← Decode.Source.ofJson "SearchOptions" value
  let limit := source.optional "limit" 0 none (Decode.nullable (Decode.unsigned .size))
  let page := source.optional "page" 1 none (Decode.nullable (Decode.unsigned .size))
  source.check 2 (source.fault "limit" 0 limit ++ source.fault "page" 1 page)
  return { limit := ← limit, page := ← page }

end SearchOptions

end Retrieval
