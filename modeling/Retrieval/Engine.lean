import Retrieval.Index.Update
import Retrieval.Query.Compile
import Retrieval.Results

namespace Retrieval

/-!
# The search engine of an application

The engine writes records to their index, removes them from it, and searches
it.  It holds its settings, two toggles, and whether the mapping of the records
is still to be pushed; the mapping stays pending until an update has gone
through to its end.
-/

/-- The version that the engine reports of itself. -/
def version : String :=
  "0.1.0"

/-- An engine as it is between two operations. -/
structure Engine where
  settings : EngineSettings
  /-- The next update pushes the mapping of its first record. -/
  mappingPending : Bool
  explain : Bool
  profile : Bool
  deriving Repr, DecidableEq

namespace Engine

/-- An engine with given settings and no toggle set. -/
def ofSettings (settings : EngineSettings) : Engine where
  settings := settings
  mappingPending := settings.updateMapping
  explain := false
  profile := false

/-- The request that writes the document of a record. -/
def documentEnvelope [Indexable Record] (record : Record) : Except Error Envelope := do
  let envelope ← Envelope.forDocument record
  envelope.set "body" (.object (Indexable.fields record))

/-- Write the document of a record; a record without fields is passed over. -/
def indexRecord [Indexable Record] (record : Record) : Action Unit :=
  if (Indexable.fields record).isEmpty then
    Action.say (.recordSkipped (Indexable.documentType record) (Indexable.key record))
  else do
    let envelope ← Action.ofExcept (documentEnvelope record)
    Action.request (.index envelope)

/-- Remove the document of a record, whether or not the record has fields. -/
def deleteRecord [Indexable Record] (record : Record) : Action Unit := do
  let envelope ← Action.ofExcept (Envelope.forDocument record)
  Action.request (.delete envelope)

/-- Do something with each item of a list, until one fails. -/
def forEach (act : Item → Action Unit) : List Item → Action Unit
  | [] => pure ()
  | first :: rest => do
      act first
      forEach act rest

/-- Push the mapping of the first record, if a mapping is pending. -/
def pushPending [Indexable Record] (engine : Engine) (records : List Record) : Action Unit :=
  match engine.mappingPending, records with
  | true, first :: _ => Indexable.updateMapping first
  | _, _ => pure ()

/-- Write records one by one, after the mapping if it is pending. -/
def writeRecords [Indexable Record] (engine : Engine) (records : List Record) : Action Unit := do
  engine.pushPending records
  forEach indexRecord records

/-- The engine after an update: the mapping is no longer pending if the update succeeded. -/
def afterUpdate (engine : Engine) : Except Error Unit → Engine
  | .ok _ => { engine with mappingPending := false }
  | .error _ => engine

/-- Write records, and settle the pending mapping if all of that succeeds. -/
def update
    [Indexable Record]
    (engine : Engine)
    (records : List Record) :
    Dialogue (Except Error Unit × Engine) := do
  let outcome ← ExceptT.run (engine.writeRecords records)
  return (outcome, engine.afterUpdate outcome)

/-- Remove records from their index one by one. -/
def delete [Indexable Record] (records : List Record) : Action Unit :=
  forEach deleteRecord records

/-- What the engine contributes to a request. -/
def compileSettings (engine : Engine) : CompileSettings :=
  { CompileSettings.ofEngine engine.settings with
    debug := engine.explain
    profile := engine.profile }

/-- Compile a draft with the settings and toggles of the engine. -/
def compile
    [QueryStrategy Strategy]
    (engine : Engine)
    (draft : Draft Strategy)
    (options : SearchOptions) :
    SearchRequest :=
  draft.compile options engine.compileSettings

/-- Search with given options; a draft with a callback is handed over to it. -/
def searchWith
    [QueryStrategy Strategy]
    (engine : Engine)
    (draft : Draft Strategy)
    (options : SearchOptions) :
    Action Response :=
  match draft.callback with
  | some callback => do
      Action.say (.searchDelegated draft.query)
      callback draft.query options
  | none => Action.request (.search (engine.compile draft options) options)

/-- Search with the window of the draft. -/
def search
    [QueryStrategy Strategy]
    (engine : Engine)
    (draft : Draft Strategy) :
    Action Response :=
  engine.searchWith draft SearchOptions.unset

/-- Search for one page of a given number of hits; pages are counted from one. -/
def paginate
    [QueryStrategy Strategy]
    (engine : Engine)
    (draft : Draft Strategy)
    (perPage page : UInt64) :
    Action Response :=
  engine.searchWith draft (SearchOptions.paginate perPage page)

/-- The request that runs a query document within the type of a record. -/
def queryEnvelope [Indexable Record] (record : Record) (query : Json) : Except Error Envelope := do
  let envelope ← Envelope.forType record
  envelope.set "body" query

/-- Run a query document within the type of a record. -/
def searchRaw [Indexable Record] (record : Record) (query : Json) : Action Response := do
  let envelope ← Action.ofExcept (queryEnvelope record query)
  Action.request (.searchRaw envelope)

/-- Ask for explanations of scores from now on, or do not; the transport is told as well. -/
def setExplain (engine : Engine) (enabled : Bool) : Dialogue Engine := do
  Dialogue.set .debug enabled
  return { engine with explain := enabled }

/-- Ask for the timing of searches from now on, or do not; the transport is told as well. -/
def setProfile (engine : Engine) (enabled : Bool) : Dialogue Engine := do
  Dialogue.set .profile enabled
  return { engine with profile := enabled }

/-- Show only some fields in results from now on. -/
def setFields (engine : Engine) (fields : List String) : Engine :=
  { engine with settings := engine.settings.withFields fields }

/-- Show results as stored fields, or as records. -/
def setRawResult (engine : Engine) (raw : Bool) : Engine :=
  { engine with settings := engine.settings.withRawResult raw }

/-- Turn the hits of a response into results. -/
def map
    [Indexable Record]
    (engine : Engine)
    (response : Response)
    (repository : Repository Record) :
    MappedResults Record :=
  (ResultView.ofSettings engine.settings).map response repository

end Engine

end Retrieval
