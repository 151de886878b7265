import Retrieval.Engine
import Retrieval.Proofs.Courses

namespace Retrieval

/-!
# Runs of an engine

Operations are performed on one engine one after another, on records of any type
and with drafts of any strategies.  A turn of a run holds the operation with the
engine and the messages that it found; all that it does follows from these and
from the transport.  What every turn keeps track of in the same way, a run keeps
track of.
-/

namespace Engine

/-- An operation of an engine. -/
inductive Operation : Type 1 where
  | update {Record : Type} [Indexable Record] (records : List Record)
  | delete {Record : Type} [Indexable Record] (records : List Record)
  | search {Strategy : Type} [QueryStrategy Strategy] (draft : Draft Strategy)
  | paginate
      {Strategy : Type} [QueryStrategy Strategy]
      (draft : Draft Strategy)
      (perPage page : UInt64)
  | searchRaw {Record : Type} [Indexable Record] (record : Record) (query : Json)
  | setExplain (enabled : Bool)
  | setProfile (enabled : Bool)
  | setFields (fields : List String)
  | setRawResult (raw : Bool)
  | map
      {Record : Type} [Indexable Record]
      (response : Response)
      (repository : Repository Record)

/-- What an operation answers to its caller, the records of mapped results apart. -/
inductive Outcome where
  | settled (result : Except Error Unit)
  | found (result : Except Error Response)
  | changed

/-- Carry out an action that leaves the engine as it is. -/
def conduct
    (engine : Engine)
    (report : Except Error α → Outcome)
    (action : Action α) :
    Dialogue (Outcome × Engine) := do
  let result ← ExceptT.run action
  return (report result, engine)

/-- Perform an operation on an engine, and tell the outcome with the engine after it. -/
def perform (engine : Engine) : Operation → Dialogue (Outcome × Engine)
  | @Operation.update _ _ records => do
      let updated ← engine.update records
      return (.settled updated.1, updated.2)
  | @Operation.delete _ _ records => engine.conduct .settled (Engine.delete records)
  | @Operation.search _ _ draft => engine.conduct .found (engine.search draft)
  | @Operation.paginate _ _ draft perPage page =>
      engine.conduct .found (engine.paginate draft perPage page)
  | @Operation.searchRaw _ _ record query =>
      engine.conduct .found (Engine.searchRaw record query)
  | .setExplain enabled => do
      let next ← engine.setExplain enabled
      return (.changed, next)
  | .setProfile enabled => do
      let next ← engine.setProfile enabled
      return (.changed, next)
  | .setFields fields => return (.changed, engine.setFields fields)
  | .setRawResult raw => return (.changed, engine.setRawResult raw)
  | @Operation.map _ _ response repository =>
      return (.settled ((engine.map response repository).result.map fun _ => ()), engine)

theorem run_conduct
    (transport : Transport)
    (history : List Message)
    (engine : Engine)
    (report : Except Error α → Outcome)
    (action : Action α) :
    Dialogue.run transport history (engine.conduct report action) =
      let ran := Action.run transport history action
      { value := (report ran.value, engine)
        messages := ran.messages
        notices := ran.notices } := by
  rw [conduct, Dialogue.run_bind_pure]
  rfl

/-- One operation of a run, with the engine and the messages that came before it. -/
structure Turn where
  operation : Operation
  engine : Engine
  history : List Message

namespace Turn

variable (transport : Transport) (turn : Turn)

/-- What comes of a turn. -/
def transcript : Transcript (Outcome × Engine) :=
  Dialogue.run transport turn.history (turn.engine.perform turn.operation)

/-- The messages that a turn sends. -/
def messages : List Message :=
  (turn.transcript transport).messages

/-- What the caller of a turn is answered. -/
def outcome : Outcome :=
  (turn.transcript transport).value.1

/-- The engine that a turn leaves. -/
def after : Engine :=
  (turn.transcript transport).value.2

end Turn

/-- What an operation makes of the engine, given what it answers to its caller. -/
def afterOperation (engine : Engine) : Operation → Outcome → Engine
  | @Operation.update _ _ _, .settled result => engine.afterUpdate result
  | .setExplain enabled, _ => { engine with explain := enabled }
  | .setProfile enabled, _ => { engine with profile := enabled }
  | .setFields fields, _ => engine.setFields fields
  | .setRawResult raw, _ => engine.setRawResult raw
  | _, _ => engine

/-- A turn leaves its engine as its operation makes it; what was sent has no part in it. -/
theorem Turn.after_eq (transport : Transport) (turn : Turn) :
    turn.after transport = turn.engine.afterOperation turn.operation (turn.outcome transport) := by
  obtain ⟨operation, engine, history⟩ := turn
  simp only [after, outcome, transcript]
  cases operation with
  | update records =>
      simp only [perform, update, Dialogue.run_bind_pure, afterOperation]
  | delete | search | paginate | searchRaw =>
      simp only [perform, run_conduct, afterOperation]
  | setExplain | setProfile | setFields | setRawResult | map =>
      rfl

/-- The turns of operations that are performed one after another. -/
def turns (transport : Transport) :
    List Message → Engine → List Operation → List Turn
  | _, _, [] => []
  | history, engine, operation :: rest =>
      let turn : Turn := { operation := operation, engine := engine, history := history }
      turn :: turns transport (history ++ turn.messages transport) (turn.after transport) rest

/--
What every turn changes in the same way is, before each turn, what the turns
before it have made of it.
-/
theorem tracked_before_turn
    {transport : Transport}
    (track : Engine → β)
    (advance : β → Turn → β)
    (step : ∀ turn : Turn, track (turn.after transport) = advance (track turn.engine) turn)
    {history : List Message}
    {engine : Engine}
    {operations : List Operation}
    {earlier later : List Turn}
    {turn : Turn}
    (run : turns transport history engine operations = earlier ++ turn :: later) :
    track turn.engine = earlier.foldl advance (track engine) := by
  -- Each turn begins with the engine and the messages that the one before it leaves.
  induction operations generalizing history engine earlier with
  | nil =>
      simp [turns] at run
  | cons operation rest inductionHypothesis =>
      simp only [turns] at run
      cases earlier with
      | nil =>
          obtain ⟨same, _⟩ := List.cons.inj run
          rw [← same]
          rfl
      | cons first others =>
          obtain ⟨same, tail⟩ := List.cons.inj run
          rw [inductionHypothesis tail, step, ← same]
          rfl

/-- The turns of a run are those of its operations, in the same order. -/
theorem operations_of_turns
    (transport : Transport)
    (history : List Message)
    (engine : Engine)
    (operations : List Operation) :
    (turns transport history engine operations).map Turn.operation = operations := by
  induction operations generalizing history engine with
  | nil =>
      rfl
  | cons operation rest inductionHypothesis =>
      simp [turns, inductionHypothesis]

end Engine

end Retrieval
