import Retrieval.Json.Decode

namespace Retrieval

/-!
# Index definitions

The name of an index on the search engine, with the settings and the mapping
that all of its types share.  Both documents belong to the search engine and
are passed on as they are.
-/

/-- An index and the documents that describe it. -/
structure IndexDefinition where
  name : String
  settings : Option Json
  defaultMapping : Option Json
  deriving Repr, DecidableEq

namespace IndexDefinition

/-- An index without settings and mapping of its own. -/
def named (name : String) : IndexDefinition where
  name := name
  settings := none
  defaultMapping := none

/-- The definition with other settings. -/
def withSettings (definition : IndexDefinition) (settings : Json) : IndexDefinition :=
  { definition with settings := some settings }

/-- The definition with another mapping for all of its types. -/
def withDefaultMapping (definition : IndexDefinition) (mapping : Json) : IndexDefinition :=
  { definition with defaultMapping := some mapping }

/-- The JSON record of a definition; an absent document is written as `null`. -/
def toJson (definition : IndexDefinition) : Json :=
  .object [
    ("name", .string definition.name),
    ("settings", Json.ofOption definition.settings),
    ("default_mapping", Json.ofOption definition.defaultMapping)]

/-- Read a definition from a JSON record; the name must be present. -/
def ofJson (value : Json) : Decoded IndexDefinition := do
  let source ← Decode.Source.ofJson "IndexConfigurator" value
  let name := source.required "IndexConfigurator" 3 "name" 0 Decode.string
  let settings := source.optional "settings" 1 none (Decode.nullable Decode.anything)
  let defaultMapping :=
    source.optional "default_mapping" 2 none (Decode.nullable Decode.anything)
  source.check 3
    (source.fault "name" 0 name
      ++ source.fault "settings" 1 settings
      ++ source.fault "default_mapping" 2 defaultMapping)
  return {
    name := ← name
    settings := ← settings
    defaultMapping := ← defaultMapping }

end IndexDefinition

end Retrieval
