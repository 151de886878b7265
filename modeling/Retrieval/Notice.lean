import Retrieval.Error

namespace Retrieval

/-!
# Notices

What an operation has to say beside its result.  A notice names its occasion;
its severity and its wording follow from that.
-/

/-- How much attention a notice asks for. -/
inductive Severity where
  | error
  | warning
  | information
  | detail
  deriving Repr, DecidableEq

namespace Severity

/-- The word for a severity at the start of a line. -/
def label : Severity → String
  | .error => "ERROR"
  | .warning => "WARN"
  | .information => "INFO"
  | .detail => "DEBUG"

end Severity

/-- An occasion on which an operation speaks. -/
inductive Notice where
  /-- A filter was left out because its operator is unknown. -/
  | filterIgnored (field : String) (cause : Error)
  /-- A hit was left out because the store has no record for it. -/
  | hitDropped (id index : String)
  /-- A record was passed over because it has no searchable field. -/
  | recordSkipped (type : String) (key : Json)
  /-- A search is handed to the callback of its draft. -/
  | searchDelegated (query : String)
  /-- A record type has no mapping to push. -/
  | mappingAbsent (type : String)
  | mappingUpdated (type index : String)
  | indexMissing (name : String)
  | indexUpdated (name : String)
  /-- An update was broken off, and the index is opened again. -/
  | updateFailed (name : String) (cause : Error)
  | reopenFailed (name : String) (cause : Error)
  | openFailed (name : String) (cause : Error)
  deriving Repr, DecidableEq

namespace Notice

/-- The severity of a notice, which its occasion fixes. -/
def severity : Notice → Severity
  | .filterIgnored .. | .hitDropped .. => .warning
  | .recordSkipped .. | .searchDelegated _ | .mappingAbsent _ => .detail
  | .mappingUpdated .. | .indexUpdated _ => .information
  | .indexMissing _ | .updateFailed .. | .reopenFailed .. | .openFailed .. => .error

/-- The wording of a notice. -/
def message : Notice → String
  | .filterIgnored field cause =>
      "ignoring filter on '" ++ field ++ "': " ++ cause.message
  | .hitDropped id index =>
      "dropping hit '" ++ id ++ "' from " ++ index
        ++ ": no matching record in the backing store"
  | .recordSkipped type key => "skipping " ++ type ++ " " ++ key.text ++ ": nothing to index"
  | .searchDelegated query => "delegating search for '" ++ query ++ "' to callback"
  | .mappingAbsent type => "no mapping declared for " ++ type
  | .mappingUpdated type index =>
      "the " ++ type ++ " mapping was updated in index " ++ index
  | .indexMissing name => "index " ++ name ++ " doesn't exist"
  | .indexUpdated name => "the index " ++ name ++ " was updated"
  | .updateFailed name cause =>
      "failed to update index " ++ name ++ ": " ++ cause.message ++ "; reopening it"
  | .reopenFailed name cause => "failed to reopen index " ++ name ++ ": " ++ cause.message
  | .openFailed name cause => "failed to open index " ++ name ++ ": " ++ cause.message

/-- A notice as one line, its severity first. -/
def line (notice : Notice) : String :=
  notice.severity.label ++ " " ++ notice.message

end Notice

end Retrieval
