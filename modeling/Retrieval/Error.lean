import Retrieval.Json.Decode

namespace Retrieval

/-!
# Errors

Each error names its cause.  The wording is in the `message` functions alone,
and `Error.sources` lists the messages of the errors underneath.
-/

/-- How a record or an index is set up so that nothing can be addressed to it. -/
inductive SetupFault where
  /-- The name of the index is empty. -/
  | unnamedIndex
  /-- A record of a named type declares no document type. -/
  | untypedRecord (typeName : String)
  | other (message : String)
  deriving Repr, DecidableEq

namespace SetupFault

/-- The words for a fault of set-up. -/
def message : SetupFault → String
  | .unnamedIndex => "index configurator must declare an index name"
  | .untypedRecord typeName =>
      "the " ++ typeName ++ " record must declare a searchable type"
  | .other message => message

end SetupFault

/-- Why a value passed by a caller cannot be accepted. -/
inductive ArgumentFault where
  /-- A comparison is none of the known ones. -/
  | unsupportedOperator (symbol : String)
  /-- The key was fixed when the envelope was made. -/
  | protectedKey (key : String)
  /-- The key holds a plain value and has no parts. -/
  | notNested (key : String)
  /-- The key holds a string and was given another value. -/
  | notAString (key : String) (found : Json)
  /-- A member cannot be set inside a value that is no object. -/
  | insideValue (key : String) (found : Json)
  /-- An envelope has no such key. -/
  | unknownKey (key : String)
  | other (message : String)
  deriving Repr, DecidableEq

namespace ArgumentFault

/-- The words for a fault of an argument. -/
def message : ArgumentFault → String
  | .unsupportedOperator symbol => "unsupported filter operator '" ++ symbol ++ "'"
  | .protectedKey key => "the key '" ++ key ++ "' is protected and cannot be overwritten"
  | .notNested key => "the key '" ++ key ++ "' does not hold nested values"
  | .notAString key found => "the key '" ++ key ++ "' expects a string, got " ++ found.text
  | .insideValue key found =>
      "cannot set '" ++ key ++ "' inside non-object value " ++ found.text
  | .unknownKey key => "unknown payload key '" ++ key ++ "'"
  | .other message => message

end ArgumentFault

/-- Why a file cannot be read as text. -/
inductive FileFault where
  | missing
  | notUtf8
  | other (message : String)
  deriving Repr, DecidableEq

namespace FileFault

/-- The words for a fault of a file. -/
def message : FileFault → String
  | .missing => "No such file or directory (os error 2)"
  | .notUtf8 => "stream did not contain valid UTF-8"
  | .other message => message

end FileFault

/-- Why an operation failed. -/
inductive Error where
  /-- A record or an index is set up so that no envelope can be made for it. -/
  | configuration (fault : SetupFault)
  /-- A caller passed a value that cannot be accepted. -/
  | invalidArgument (fault : ArgumentFault)
  /-- The search transport reports a failure. -/
  | transport (message : String)
  /-- The store behind the index reports a failure. -/
  | store (message : String)
  /-- The search engine has no such index. -/
  | indexNotFound (name : String)
  /-- A step in the administration of an index failed. -/
  | indexOperation (operation name : String) (source : Error)
  | json (error : DecodeError)
  /-- A text is no TOML document, or not one of the expected form. -/
  | toml
  | io (fault : FileFault)
  /-- A failure from elsewhere; a context, when given, speaks in place of its cause. -/
  | other (cause : String) (context : Option String)
  deriving Repr, DecidableEq

namespace Error

/-- The words for an error; an error around another one repeats its words. -/
def message : Error → String
  | .configuration fault => "Configuration error: " ++ fault.message
  | .invalidArgument fault => "Invalid argument: " ++ fault.message
  | .transport message => "Transport error: " ++ message
  | .store message => "Store error: " ++ message
  | .indexNotFound name => "Index " ++ name ++ " doesn't exist"
  | .indexOperation operation name source =>
      "Failed to " ++ operation ++ " index " ++ name ++ ": " ++ source.message
  | .json error => "JSON error: " ++ error.message
  | .toml => "TOML error"
  | .io fault => "I/O error: " ++ fault.message
  | .other cause context => context.getD cause

/-- The messages of the errors underneath, the nearest one first. -/
def sources : Error → List String
  | .indexOperation _ _ source => source.message :: source.sources
  | .json error => [error.message]
  | .io fault => [fault.message]
  | .other cause (some _) => [cause]
  | _ => []

end Error

end Retrieval
