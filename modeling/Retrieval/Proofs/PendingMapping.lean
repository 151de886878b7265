import Retrieval.Proofs.Sendings
import Retrieval.Proofs.Submissions

namespace Retrieval

/-!
# Pushing a pending mapping

A mapping that is pending is pushed by the next update whose first record has
one, and by that update first of all.  It stays pending while updates fail and
is settled by the first one that goes through to its end, whatever that one had
to write; the other operations neither push a mapping nor settle it.
-/

namespace Engine

/-- A message that pushes a mapping. -/
def PushesMapping (message : Message) : Prop :=
  ∃ envelope, message = .request (.putMapping envelope)

/-- Messages that push a mapping under a condition, then as the first of them and only once. -/
structure PushFirstIf (condition : Prop) (messages : List Message) : Prop where
  pushes_iff : (∃ message ∈ messages, PushesMapping message) ↔ condition
  first :
    ∀ message ∈ messages,
      PushesMapping message →
      ∃ others, messages = message :: others ∧ ∀ other ∈ others, ¬PushesMapping other

namespace PushFirstIf

variable {condition : Prop} {messages : List Message}

theorem of_none
    (quiet : ∀ message ∈ messages, ¬PushesMapping message)
    (excluded : ¬condition) :
    PushFirstIf condition messages where
  pushes_iff := by
    constructor
    · rintro ⟨message, member, pushes⟩
      exact absurd pushes (quiet message member)
    · intro holds
      exact absurd holds excluded
  first message member pushes := absurd pushes (quiet message member)

theorem of_first
    {message : Message}
    {others : List Message}
    (pushes : PushesMapping message)
    (quiet : ∀ other ∈ others, ¬PushesMapping other)
    (holds : condition) :
    PushFirstIf condition (message :: others) where
  pushes_iff := by
    constructor
    · intro _
      exact holds
    · intro _
      exact ⟨message, List.mem_cons_self, pushes⟩
  first other member pushesToo := by
    cases member with
    | head =>
        exact ⟨others, rfl, quiet⟩
    | tail _ later =>
        exact absurd pushesToo (quiet other later)

theorem congr
    {other : Prop}
    (pushed : PushFirstIf condition messages)
    (same : condition ↔ other) :
    PushFirstIf other messages where
  pushes_iff := pushed.pushes_iff.trans same
  first := pushed.first

end PushFirstIf

namespace Operation

/-- An operation is an update. -/
def updates : Operation → Bool
  | @update _ _ _ => true
  | _ => false

/-- An update whose first record has a mapping, and a type and an index to push it to. -/
def DeclaresMapping : Operation → Prop
  | @update _ _ (first :: _) =>
      (∃ declared, Json.Said (Indexable.mapping first) declared) ∧
        Indexable.documentType first ≠ "" ∧
        (Indexable.index first).name ≠ ""
  | _ => False

/-- A search is not handed over to a callback that pushes a mapping itself. -/
def CallbackPushesNone : Operation → Prop
  | @search _ _ draft | @paginate _ _ draft _ _ =>
      ∀ callback,
        draft.callback = some callback →
        ∀ query options,
          Action.SendsOnly (fun message => ¬PushesMapping message) (callback query options)
  | _ => True

theorem DeclaresMapping.updates
    {operation : Operation}
    (declares : operation.DeclaresMapping) :
    operation.updates = true := by
  cases operation with
  | update records =>
      rfl
  | _ =>
      cases declares

end Operation

namespace Outcome

/-- An outcome reports no error. -/
def succeeds : Outcome → Bool
  | .settled (.ok _) | .found (.ok _) | .changed => true
  | .settled (.error _) | .found (.error _) => false

end Outcome

namespace Turn

/-- A turn is an update that goes through to its end. -/
def completesUpdate (transport : Transport) (turn : Turn) : Bool :=
  turn.operation.updates && (turn.outcome transport).succeeds

/-- What is pending after a turn; a turn settles it by completing an update. -/
def leavesPending (transport : Transport) (pending : Bool) (turn : Turn) : Bool :=
  pending && !turn.completesUpdate transport

theorem mappingPending_after (transport : Transport) (turn : Turn) :
    (turn.after transport).mappingPending =
      turn.leavesPending transport turn.engine.mappingPending := by
  obtain ⟨operation, engine, history⟩ := turn
  rw [after_eq]
  simp only [leavesPending, completesUpdate]
  cases operation with
  | update records =>
      simp only [outcome, transcript, perform, Dialogue.run_bind_pure, run_update,
        afterOperation, Operation.updates]
      cases (Action.run transport history (engine.writeRecords records)).value with
      | ok done =>
          simp [afterUpdate, Outcome.succeeds]
      | error cause =>
          simp [afterUpdate, Outcome.succeeds]
  | _ =>
      simp [afterOperation, Operation.updates, setFields, setRawResult]

end Turn

section

variable {Record : Type} [Indexable Record]

theorem pushesMapping_message {due : Due Record} :
    PushesMapping due.message ↔ ∃ record declared, due = .mapping record declared := by
  cases due with
  | mapping record declared =>
      simp [PushesMapping, Due.message, Due.request]
  | document record =>
      simp [PushesMapping, Due.message, Due.request]
  | removal record =>
      simp [PushesMapping, Due.message, Due.request]

/-- Writing what is due for documents pushes no mapping. -/
theorem documents_push_none
    {transport : Transport}
    {history messages : List Message}
    {records : List Record}
    {outcome : Except Error Unit}
    (course :
      Submits transport history (records.flatMap Indexable.dueDocument) messages outcome) :
    ∀ message ∈ messages, ¬PushesMapping message := by
  intro message member pushes
  rcases course.due_of_sent member with ⟨due, owed, rfl, _⟩
  rcases pushesMapping_message.mp pushes with ⟨record, declared, rfl⟩
  rcases List.mem_flatMap.mp owed with ⟨other, _, document⟩
  rcases Indexable.mem_dueDocument_iff.mp document with ⟨_, same⟩
  cases same

/-- A mapping that is due before documents is pushed first if its record has an address. -/
theorem mapping_pushed_first
    {transport : Transport}
    {history messages : List Message}
    {record : Record}
    {declared : Json}
    {records : List Record}
    {outcome : Except Error Unit}
    (course :
      Submits transport history
        (.mapping record declared :: records.flatMap Indexable.dueDocument) messages outcome) :
    PushFirstIf (Indexable.addressFault? record = none) messages := by
  have pushes : PushesMapping (Due.mapping record declared).message :=
    pushesMapping_message.mpr ⟨record, declared, rfl⟩
  cases course with
  | unaddressed lacking =>
      exact .of_none (by simp) (Option.ne_none_iff_exists'.mpr ⟨_, lacking⟩)
  | refused addressed answered =>
      exact .of_first pushes (by simp) addressed
  | accepted addressed answered rest =>
      exact .of_first pushes (documents_push_none rest) addressed

theorem declaresMapping_cons {first : Record} {others : List Record} :
    (Operation.update (first :: others)).DeclaresMapping ↔
      (∃ declared, Json.Said (Indexable.mapping first) declared) ∧
        Indexable.addressFault? first = none := by
  rw [Operation.DeclaresMapping, Indexable.addressFault?_eq_none_iff]

/-- An update pushes a pending mapping if its first record declares one that can be pushed. -/
theorem update_pushes
    (engine : Engine)
    (records : List Record)
    (transport : Transport)
    (history : List Message) :
    PushFirstIf
      (engine.mappingPending = true ∧ (Operation.update records).DeclaresMapping)
      (Dialogue.run transport history (engine.update records)).messages := by
  have course := engine.update_submits records transport history
  rw [dueInUpdate] at course
  -- Only a mapping at the head of what is due can be pushed, since documents follow it.
  cases pending : engine.mappingPending with
  | false =>
      simp only [pending] at course
      exact .of_none (documents_push_none course) (by simp)
  | true =>
      simp only [pending, ↓reduceIte] at course
      cases records with
      | nil =>
          exact .of_none (documents_push_none course) (by simp [Operation.DeclaresMapping])
      | cons first others =>
          simp only [List.head?_cons, Option.toList_some, List.flatMap_singleton] at course
          rw [declaresMapping_cons]
          rcases Indexable.dueMapping_cases first with
            ⟨declared, said, isDue⟩ | ⟨unsaid, nothing⟩
          · rw [isDue, List.singleton_append] at course
            have declares : ∃ declared, Json.Said (Indexable.mapping first) declared :=
              ⟨declared, said⟩
            exact (mapping_pushed_first course).congr (by simp [declares])
          · rw [nothing, List.nil_append] at course
            exact .of_none (documents_push_none course) (by simp [unsaid])

end

namespace Turn

/-- An operation that is not an update pushes no mapping by itself. -/
theorem pushes_none
    (transport : Transport)
    {turn : Turn}
    (quiet : turn.operation.CallbackPushesNone)
    (other : turn.operation.updates = false) :
    ∀ message ∈ turn.messages transport, ¬PushesMapping message := by
  have own : ∀ message, turn.operation.MaySend message → ¬PushesMapping message := by
    obtain ⟨operation, engine, history⟩ := turn
    intro message sent
    cases operation with
    | update records =>
        cases other
    | search | paginate =>
        obtain ⟨compiled, options, rfl⟩ := sent
        simp [PushesMapping]
    | delete | searchRaw =>
        obtain ⟨envelope, rfl⟩ := sent
        simp [PushesMapping]
    | setExplain | setProfile =>
        obtain rfl : message = _ := sent
        simp [PushesMapping]
    | setFields | setRawResult | map =>
        cases sent
  have callbacks :
      turn.operation.CallbackSendsOnly fun message => ¬PushesMapping message := by
    obtain ⟨operation, engine, history⟩ := turn
    cases operation <;> exact quiet
  exact turn.sendsOnly own callbacks transport

/-- What a turn pushes depends on its operation and on what is pending in its engine. -/
theorem pushes
    (transport : Transport)
    {turn : Turn}
    (quiet : turn.operation.CallbackPushesNone) :
    PushFirstIf (turn.engine.mappingPending = true ∧ turn.operation.DeclaresMapping)
      (turn.messages transport) := by
  cases kind : turn.operation.updates with
  | false =>
      refine .of_none (turn.pushes_none transport quiet kind) ?_
      rintro ⟨_, declares⟩
      rw [declares.updates] at kind
      cases kind
  | true =>
      obtain ⟨operation, engine, history⟩ := turn
      cases operation with
      | update records =>
          simp only [messages, transcript, perform, Dialogue.run_bind_pure]
          exact engine.update_pushes records transport history
      | _ =>
          cases kind

end Turn

theorem foldl_leavesPending
    (transport : Transport)
    (pending : Bool)
    (turns : List Turn) :
    turns.foldl (Turn.leavesPending transport) pending = true ↔
      pending = true ∧ ∀ turn ∈ turns, turn.completesUpdate transport = false := by
  induction turns generalizing pending with
  | nil =>
      simp
  | cons first rest inductionHypothesis =>
      rw [List.foldl_cons, inductionHypothesis]
      simp [Turn.leavesPending, and_assoc]

/-- A mapping is pending before a turn if it was to be pushed and no update has gone through. -/
theorem mappingPending_before_turn
    {settings : EngineSettings}
    {transport : Transport}
    {history : List Message}
    {operations : List Operation}
    {earlier later : List Turn}
    {turn : Turn}
    (run : turns transport history (ofSettings settings) operations = earlier ++ turn :: later) :
    turn.engine.mappingPending = true ↔
      settings.updateMapping = true ∧
        ∀ other ∈ earlier, other.completesUpdate transport = false := by
  have tracked :=
    tracked_before_turn mappingPending (Turn.leavesPending transport)
      (Turn.mappingPending_after transport) run
  rw [tracked]
  exact foldl_leavesPending transport settings.updateMapping earlier

/--
For every engine, transport and sequence of operations whose callbacks push no
mapping, a turn pushes one exactly if the settings ask for it, no update before
has gone through to its end, and the turn is an update whose first record has a
mapping and an address; the push is then the first request of the turn and the
only one of its kind.  After an update that went through nothing is pushed any
more, and a turn that is not such an update leaves what is pending.
-/
theorem pushes_mapping_until_update_completes
    (settings : EngineSettings)
    (transport : Transport)
    (history : List Message)
    (operations : List Operation)
    (quiet : ∀ operation ∈ operations, operation.CallbackPushesNone)
    (earlier later : List Turn)
    (turn : Turn)
    (run : turns transport history (ofSettings settings) operations = earlier ++ turn :: later) :
    PushFirstIf
        (settings.updateMapping = true ∧
          (∀ other ∈ earlier, other.completesUpdate transport = false) ∧
          turn.operation.DeclaresMapping)
        (turn.messages transport) ∧
      (turn.completesUpdate transport = true →
        ∀ next ∈ later, ∀ message ∈ next.messages transport, ¬PushesMapping message) ∧
      (turn.completesUpdate transport = false →
        (turn.after transport).mappingPending = turn.engine.mappingPending) := by
  have quietTurn {before after : List Turn} {other : Turn}
      (split : turns transport history (ofSettings settings) operations =
        before ++ other :: after) :
      other.operation.CallbackPushesNone := by
    refine quiet other.operation ?_
    rw [← operations_of_turns transport history (ofSettings settings) operations, split]
    simp
  refine ⟨?_, ?_, ?_⟩
  · refine (turn.pushes transport (quietTurn run)).congr ?_
    rw [mappingPending_before_turn run, and_assoc]
  · intro completes next member message sent pushesMapping
    obtain ⟨between, after, rfl⟩ := List.append_of_mem member
    -- Seen from the later turn, the one that completed an update is an earlier one.
    have runToNext :
        turns transport history (ofSettings settings) operations =
          (earlier ++ turn :: between) ++ next :: after := by
      rw [run, List.append_assoc, List.cons_append]
    obtain ⟨pending, _⟩ :=
      (next.pushes transport (quietTurn runToNext)).pushes_iff.mp ⟨message, sent, pushesMapping⟩
    have incomplete :=
      ((mappingPending_before_turn runToNext).mp pending).2 turn (by simp)
    rw [completes] at incomplete
    cases incomplete
  · intro incomplete
    rw [turn.mappingPending_after transport, Turn.leavesPending, incomplete, Bool.not_false,
      Bool.and_true]

/-- A transport that refuses the first message and accepts all others. -/
def refusingFirst : Transport where
  answer history request :=
    match history with
    | [] => .error (.transport "not ready")
    | _ :: _ => CannedTransport.initial.toTransport.answer history request

/-- An update with one record, whose type has a mapping. -/
def plainUpdate : Operation :=
  .update [plainlyNamed]

/-- An update by an engine that has just been set up to push a mapping. -/
def firstTurn : Turn where
  operation := plainUpdate
  engine := ofSettings (EngineSettings.initial.withUpdateMapping true)
  history := []

/-- The same update after another turn. -/
def Turn.again (turn : Turn) : Turn where
  operation := plainUpdate
  engine := turn.after refusingFirst
  history := turn.history ++ turn.messages refusingFirst

/-- A mapping that was refused is pushed again, until an update has gone through. -/
theorem refused_mapping_pushed_again :
    (∀ operation ∈ [plainUpdate, plainUpdate, plainUpdate], operation.CallbackPushesNone) ∧
      turns refusingFirst [] firstTurn.engine [plainUpdate, plainUpdate, plainUpdate] =
        [firstTurn] ++ firstTurn.again :: [firstTurn.again.again] ∧
      firstTurn.completesUpdate refusingFirst = false ∧
      (∃ message ∈ firstTurn.again.messages refusingFirst, PushesMapping message) ∧
      ∀ message ∈ firstTurn.again.again.messages refusingFirst, ¬PushesMapping message := by
  have quiet :
      ∀ operation ∈ [plainUpdate, plainUpdate, plainUpdate], operation.CallbackPushesNone := by
    simp [plainUpdate, Operation.CallbackPushesNone]
  have run :
      turns refusingFirst [] firstTurn.engine [plainUpdate, plainUpdate, plainUpdate] =
        [firstTurn] ++ firstTurn.again :: [firstTurn.again.again] :=
    rfl
  have refused : firstTurn.completesUpdate refusingFirst = false := by
    decide
  have accepted : firstTurn.again.completesUpdate refusingFirst = true := by
    decide
  obtain ⟨pushed, silent, _⟩ :=
    pushes_mapping_until_update_completes (EngineSettings.initial.withUpdateMapping true)
      refusingFirst [] _ quiet _ _ _ run
  refine ⟨quiet, run, refused, pushed.pushes_iff.mpr ⟨rfl, ?_, ?_⟩, ?_⟩
  · simpa using refused
  · exact ⟨⟨closedMapping, closedMapping_said⟩, by decide, by decide⟩
  · exact silent accepted _ (by simp)

end Engine

end Retrieval
