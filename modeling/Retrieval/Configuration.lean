import Retrieval.Error
import Retrieval.Index.Definition
import Retrieval.Settings
import Retrieval.Toml.Reader

namespace Retrieval

/-!
# Configuration texts

Settings and index definitions can be written as TOML documents.  Keys that are
not known are ignored, a key that is left out takes its default, and a value of
another kind than the expected one makes the whole document unusable.
-/

namespace Toml

/-- The string that a value is, if it is one. -/
def Value.string? : Value → Option String
  | .string value => some value
  | _ => none

/-- The truth value that a value is, if it is one. -/
def Value.boolean? : Value → Option Bool
  | .boolean value => some value
  | _ => none

/-- The strings of an array that holds nothing else. -/
def Value.strings? : Value → Option (List String)
  | .array items => items.mapM Value.string?
  | _ => none

/-- The value of the first member with a key. -/
def member? (key : String) (members : List (String × Value)) : Option Value :=
  (members.find? fun member => member.1 == key).map Prod.snd

/-- The value of a key that may be absent, if it has the right kind. -/
def optional
    (members : List (String × Value))
    (key : String)
    (absent : α)
    (decode : Value → Option α) :
    Option α :=
  match member? key members with
  | some value => decode value
  | none => some absent

end Toml

namespace EngineSettings

/-- Read settings from the members of a TOML table. -/
def ofToml? (members : List (String × Toml.Value)) : Option EngineSettings := do
  let defaultField ←
    Toml.optional members "default_field" initial.defaultField Toml.Value.string?
  let rawResult ← Toml.optional members "raw_result" initial.rawResult Toml.Value.boolean?
  let fields ←
    Toml.optional members "fields" initial.fields fun value => value.strings?.map some
  let updateMapping ←
    Toml.optional members "update_mapping" initial.updateMapping Toml.Value.boolean?
  some {
    defaultField := defaultField
    rawResult := rawResult
    fields := fields
    updateMapping := updateMapping }

/-- Read settings from a TOML document; a text of another form is an error without details. -/
def ofText (text : String) : Except Error EngineSettings :=
  match (Toml.ofText? text).bind ofToml? with
  | some settings => .ok settings
  | none => .error .toml

/-- Read settings from the contents of a file, if there is one. -/
def ofFile : Option ByteArray → Except Error EngineSettings
  | none => .error (.io .missing)
  | some contents =>
      match String.fromUTF8? contents with
      | some text => ofText text
      | none => .error (.io .notUtf8)

end EngineSettings

namespace IndexDefinition

/-- Read a definition from the members of a TOML table; the name must be present. -/
def ofToml? (members : List (String × Toml.Value)) : Option IndexDefinition := do
  let name ← (Toml.member? "name" members).bind Toml.Value.string?
  some {
    name := name
    settings := (Toml.member? "settings" members).map Toml.Value.toJson
    defaultMapping := (Toml.member? "default_mapping" members).map Toml.Value.toJson }

/-- Read a definition from a TOML document; a text of another form is an error without details. -/
def ofText (text : String) : Except Error IndexDefinition :=
  match (Toml.ofText? text).bind ofToml? with
  | some definition => .ok definition
  | none => .error .toml

end IndexDefinition

end Retrieval
