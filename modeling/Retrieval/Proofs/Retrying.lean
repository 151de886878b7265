import Retrieval.Proofs.Documents
import Retrieval.Proofs.EngineRuns

namespace Retrieval

/-!
# Updates can be repeated, and a removal takes them back

An update that goes through to its end leaves the documents of its records,
whatever stood at their addresses before.  Updates that were broken off have
touched no other address, so repeating an update until it goes through comes to
the same as a single one.  A removal of the same records clears their addresses
and leaves all others as they were before the update.
-/

variable {Record : Type} [Indexable Record]

namespace Documents

/-- The first of records is written before the others, if it has any fields. -/
theorem written_cons (documents : Documents) (first : Record) (rest : List Record) :
    documents.written (first :: rest) =
      (((Indexable.dueDocument first).map Due.message).foldl receive documents).written rest := by
  funext address
  by_cases empty : (Indexable.fields first).isEmpty = true
  · have unwritten : ¬ IsWrittenTo address first := by
      rintro ⟨_, filled⟩
      rw [empty] at filled
      cases filled
    simp [written, unwritten, Indexable.dueDocument, empty]
  · have received :
        ((Indexable.dueDocument first).map Due.message).foldl receive documents =
          documents.apply {
            address := Indexable.address first
            document := some (.object (Indexable.fields first)) } := by
      simp only [Indexable.dueDocument, empty]
      exact receive_of_change (Due.change?_message (.document first))
    rw [received]
    by_cases same : Indexable.address first = address
    · have isWritten : IsWrittenTo address first := ⟨same, by simpa using empty⟩
      cases last : (rest.filter fun record => IsWrittenTo address record).getLast? with
      | none =>
          simp [written, isWritten, List.getLast?_cons, last, apply, same]
      | some record =>
          simp [written, isWritten, List.getLast?_cons, last]
    · have unwritten : ¬ IsWrittenTo address first := fun isWritten => same isWritten.1
      have elsewhere : address ≠ Indexable.address first := fun equal => same equal.symm
      simp [written, unwritten, apply, elsewhere]

/-- Writing what is due for records leaves the documents of the records. -/
theorem foldl_receive_dueDocuments (documents : Documents) (records : List Record) :
    ((records.flatMap Indexable.dueDocument).map Due.message).foldl receive documents =
      documents.written records := by
  induction records generalizing documents with
  | nil =>
      rfl
  | cons first rest inductionHypothesis =>
      rw [List.flatMap_cons, List.map_append, List.foldl_append, inductionHypothesis,
        ← written_cons]

/-- Pushing what is due for mappings changes no document. -/
theorem foldl_receive_dueMapping (documents : Documents) (record : Record) :
    ((Indexable.dueMapping record).map Due.message).foldl receive documents = documents := by
  rcases Indexable.dueMapping_cases record with ⟨declared, _, isDue⟩ | ⟨_, nothing⟩
  · simp [isDue, receive, Due.change?_message, Due.change?]
  · simp [nothing]

/-- Two states of the documents agree wherever none of some records is written. -/
def AgreeBeside (records : List Record) (first second : Documents) : Prop :=
  ∀ address,
    (∀ record ∈ records, ¬ IsWrittenTo address record) →
    first address = second address

/-- Where no record is written, the document before stays. -/
theorem written_agreesBeside (documents : Documents) (records : List Record) :
    AgreeBeside records (documents.written records) documents := by
  intro address unwritten
  have last : (records.filter fun record => IsWrittenTo address record).getLast? = none := by
    rw [List.getLast?_eq_none_iff, List.filter_eq_nil_iff]
    intro record member isWritten
    exact unwritten record member (of_decide_eq_true isWritten)
  simp only [written, last]

/-- Of the documents before, those where no record is written are all that matters. -/
theorem written_congr
    {first second : Documents}
    {records : List Record}
    (agree : AgreeBeside records first second) :
    first.written records = second.written records := by
  funext address
  cases last : (records.filter fun record => IsWrittenTo address record).getLast? with
  | some record =>
      simp only [written, last]
  | none =>
      simp only [written, last]
      refine agree address fun record member isWritten => ?_
      rw [List.getLast?_eq_none_iff, List.filter_eq_nil_iff] at last
      exact last record member (decide_eq_true isWritten)

/-- What is due for removals clears the addresses of its records alone. -/
theorem foldl_receive_dueInDelete
    (documents : Documents)
    (records : List Record)
    (address : Address) :
    ((Engine.dueInDelete records).map Due.message).foldl receive documents address =
      if ∃ record ∈ records, Indexable.address record = address then
        none
      else
        documents address := by
  induction records generalizing documents with
  | nil =>
      simp [Engine.dueInDelete]
  | cons first rest inductionHypothesis =>
      have received :
          documents.receive (Due.removal first).message =
            documents.apply {
              address := Indexable.address first
              document := none } :=
        receive_of_change (Due.change?_message (.removal first))
      have unfolded :
          ((Engine.dueInDelete (first :: rest)).map Due.message).foldl receive documents =
            ((Engine.dueInDelete rest).map Due.message).foldl receive
              (documents.receive (Due.removal first).message) :=
        rfl
      rw [unfolded, inductionHypothesis, received]
      by_cases same : Indexable.address first = address
      · simp [apply, same]
      · have elsewhere : address ≠ Indexable.address first := fun equal => same equal.symm
        simp [apply, same, elsewhere]

end Documents

namespace Engine

variable
  {engine : Engine}
  {records : List Record}
  {transport : Transport}
  {history : List Message}
  {before after : Documents}

/-- A change that is due in an update is the writing of one of its records. -/
theorem isWrittenTo_of_mem_dueInUpdate
    {due : Due Record}
    {change : Change}
    (owed : due ∈ engine.dueInUpdate records)
    (asked : due.change? = some change) :
    ∃ record ∈ records, Documents.IsWrittenTo change.address record := by
  rcases exists_of_mem_dueInUpdate owed with ⟨record, member, mapping | document⟩
  · rcases Indexable.mem_dueMapping_iff.mp mapping with ⟨declared, _, rfl⟩
    cases asked
  · rcases Indexable.mem_dueDocument_iff.mp document with ⟨filled, rfl⟩
    cases asked
    exact ⟨record, member, rfl, filled⟩

/-- An update that is broken off anywhere, or not at all, touches no other address. -/
theorem update_agreesBeside
    (leaves :
      transport.Leaves history before
        (Dialogue.run transport history (engine.update records)).messages after) :
    Documents.AgreeBeside records before after := by
  intro address unwritten
  apply Eq.symm
  apply leaves.apply_of_untouched
  intro message member change asked same
  have course := engine.update_submits records transport history
  rcases course.due_of_sent member with ⟨due, owed, rfl, _⟩
  rw [Due.change?_message] at asked
  rcases isWrittenTo_of_mem_dueInUpdate owed asked with ⟨record, isRecord, isWritten⟩
  rw [same] at isWritten
  exact unwritten record isRecord isWritten

/-- An update that goes through to its end leaves the documents of its records. -/
theorem update_written
    (succeeds :
      (Dialogue.run transport history (engine.update records)).value.1 = .ok ())
    (leaves :
      transport.Leaves history before
        (Dialogue.run transport history (engine.update records)).messages after) :
    after = before.written records := by
  have course := engine.update_submits records transport history
  obtain ⟨sent, accepted⟩ := course.eq_ok_iff.mp succeeds
  rw [leaves.eq_of_accepted accepted, sent, dueInUpdate, List.map_append, List.foldl_append,
    Documents.foldl_receive_dueDocuments]
  congr 1
  cases engine.mappingPending with
  | false =>
      rfl
  | true =>
      cases records with
      | nil =>
          rfl
      | cons first others =>
          simpa using Documents.foldl_receive_dueMapping before first

/-- A removal that goes through to its end clears the addresses of its records alone. -/
theorem delete_cleared
    (succeeds : (Action.run transport history (delete records)).value = .ok ())
    (leaves :
      transport.Leaves history before
        (Action.run transport history (delete records)).messages after)
    (address : Address) :
    after address =
      if ∃ record ∈ records, Indexable.address record = address then
        none
      else
        before address := by
  have course := delete_carries records transport history
  obtain ⟨sent, accepted⟩ := course.eq_ok_iff.mp succeeds
  rw [leaves.eq_of_accepted accepted, sent]
  exact Documents.foldl_receive_dueInDelete before records address

/-- A turn carries an update or a removal through to its end. -/
def Turn.Completes (transport : Transport) (turn : Turn) : Prop :=
  turn.outcome transport = .settled (.ok ())

/-- What a run of operations may leave of documents. -/
def RunLeaves
    (transport : Transport)
    (history : List Message)
    (engine : Engine)
    (operations : List Operation)
    (before after : Documents) : Prop :=
  transport.Leaves history before
    ((turns transport history engine operations).flatMap (Turn.messages transport)) after

/-- The documents between the turns of a run are what the first leaves to the others. -/
theorem RunLeaves.cons
    {operation : Operation}
    {others : List Operation}
    (leaves : RunLeaves transport history engine (operation :: others) before after) :
    let turn : Turn := { operation := operation, engine := engine, history := history }
    ∃ between,
      transport.Leaves history before (turn.messages transport) between ∧
        RunLeaves transport (history ++ turn.messages transport) (turn.after transport)
          others between after := by
  apply Transport.Leaves.split
  simpa [RunLeaves, turns] using leaves

/-- The turn of an update sends what the update sends and answers what it answers. -/
theorem Turn.transcript_update (transport : Transport) :
    ({ operation := .update records, engine := engine, history := history } : Turn).transcript
        transport =
      let updated := Dialogue.run transport history (engine.update records)
      { value := (.settled updated.value.1, updated.value.2)
        messages := updated.messages
        notices := updated.notices } := by
  simp only [transcript, perform, Dialogue.run_bind_pure]

theorem Turn.transcript_delete (transport : Transport) :
    ({ operation := .delete records, engine := engine, history := history } : Turn).transcript
        transport =
      let removed := Action.run transport history (delete records)
      { value := (.settled removed.value, engine)
        messages := removed.messages
        notices := removed.notices } := by
  simp only [transcript, perform, run_conduct]

/-- A turn whose update goes through to its end leaves the documents of its records. -/
theorem Turn.update_written
    (completes :
      ({ operation := .update records, engine := engine, history := history } : Turn).Completes
        transport)
    (leaves :
      transport.Leaves history before
        (({ operation := .update records, engine := engine, history := history } :
          Turn).messages transport) after) :
    after = before.written records := by
  rw [Completes, outcome, transcript_update] at completes
  rw [messages, transcript_update] at leaves
  injection completes with succeeds
  exact Engine.update_written succeeds leaves

/-- A turn whose removal goes through to its end clears the addresses of its records alone. -/
theorem Turn.delete_cleared
    (completes :
      ({ operation := .delete records, engine := engine, history := history } : Turn).Completes
        transport)
    (leaves :
      transport.Leaves history before
        (({ operation := .delete records, engine := engine, history := history } :
          Turn).messages transport) after)
    (address : Address) :
    after address =
      if ∃ record ∈ records, Indexable.address record = address then
        none
      else
        before address := by
  rw [Completes, outcome, transcript_delete] at completes
  rw [messages, transcript_delete] at leaves
  injection completes with succeeds
  exact Engine.delete_cleared succeeds leaves address

theorem single_update_written
    (completes :
      ∀ turn ∈ turns transport history engine [.update records], turn.Completes transport)
    (leaves : RunLeaves transport history engine [.update records] before after) :
    after = before.written records := by
  obtain ⟨between, leavesTurn, leavesNone⟩ := leaves.cons
  cases leavesNone
  apply Turn.update_written _ leavesTurn
  exact completes _ List.mem_cons_self

/-- Updates that are repeated until one goes through leave the documents of their records. -/
theorem repeated_update_written
    {attempts : Nat}
    (completed :
      ∀ last ∈ (turns transport history engine
          (List.replicate (attempts + 1) (.update records))).getLast?,
        last.Completes transport)
    (leaves :
      RunLeaves transport history engine (List.replicate (attempts + 1) (.update records))
        before after) :
    after = before.written records := by
  induction attempts generalizing history engine before with
  | zero =>
      refine single_update_written (fun turn member => ?_) leaves
      rcases List.mem_singleton.mp member with rfl
      exact completed _ rfl
  | succ attempts inductionHypothesis =>
      obtain ⟨between, leavesTurn, leavesOthers⟩ := leaves.cons
      have settled : after = between.written records := by
        refine inductionHypothesis (fun last isLast => completed last ?_) leavesOthers
        simpa [turns, List.replicate_succ] using isLast
      rw [Turn.messages, Turn.transcript_update] at leavesTurn
      rw [settled]
      exact (Documents.written_congr (update_agreesBeside leavesTurn)).symm

/-- A removal after an update clears the addresses of its records alone. -/
theorem removed_after_update
    (completed :
      ∀ turn ∈ turns transport history engine [.update records, .delete records],
        turn.Completes transport)
    (leaves :
      RunLeaves transport history engine [.update records, .delete records] before after)
    (address : Address) :
    after address =
      if ∃ record ∈ records, Indexable.address record = address then
        none
      else
        before address := by
  obtain ⟨updates, removes⟩ := List.forall_mem_cons.mp completed
  obtain ⟨between, leavesUpdate, leavesOther⟩ := leaves.cons
  obtain ⟨done, leavesDelete, leavesNone⟩ := leavesOther.cons
  cases leavesNone
  rw [Turn.delete_cleared (removes _ List.mem_cons_self) leavesDelete,
    Turn.update_written updates leavesUpdate]
  split
  · rfl
  · next beside =>
      apply Documents.written_agreesBeside
      intro record member isWritten
      exact beside ⟨record, member, isWritten.1⟩

/--
For all records and all documents before: updates that are repeated until one
goes through leave at each address the last document written there and touch no
other, which is what a single update leaves that goes through.  An update and a
removal that both go through leave no document at the address of a record and
every other document as it was.
-/
theorem updates_can_be_repeated_and_removed
    (records : List Record)
    (before : Documents) :
    (∀ (transport : Transport) (history : List Message) (engine : Engine)
        (attempts : Nat) (after : Documents),
      (∀ last ∈ (turns transport history engine
          (List.replicate (attempts + 1) (.update records))).getLast?,
        last.Completes transport) →
      RunLeaves transport history engine (List.replicate (attempts + 1) (.update records))
        before after →
      after = before.written records ∧
        ∀ (other : Transport) (otherHistory : List Message) (otherEngine : Engine)
            (once : Documents),
          (∀ turn ∈ turns other otherHistory otherEngine [.update records],
            turn.Completes other) →
          RunLeaves other otherHistory otherEngine [.update records] before once →
          after = once) ∧
      ∀ (transport : Transport) (history : List Message) (engine : Engine)
          (after : Documents),
        (∀ turn ∈ turns transport history engine [.update records, .delete records],
          turn.Completes transport) →
        RunLeaves transport history engine [.update records, .delete records] before after →
        (∀ record ∈ records, after (Indexable.address record) = none) ∧
          ∀ address,
            (∀ record ∈ records, Indexable.address record ≠ address) →
            after address = before address := by
  constructor
  · intro transport history engine attempts after completed leaves
    have settled := repeated_update_written completed leaves
    refine ⟨settled, fun other otherHistory otherEngine once completes leavesOnce => ?_⟩
    rw [settled, single_update_written completes leavesOnce]
  · intro transport history engine after completed leaves
    have cleared := removed_after_update completed leaves
    constructor
    · intro record member
      rw [cleared, if_pos ⟨record, member, rfl⟩]
    · intro address beside
      rw [cleared, if_neg]
      rintro ⟨record, member, same⟩
      exact beside record member same

/-- A connection that breaks while the second message is on its way. -/
def breakingOnce : Transport where
  answer history request :=
    match history with
    | [_] => .error (.transport "connection lost")
    | _ => CannedTransport.initial.toTransport.answer history request

/-- A product with the number of pieces that are left of it. -/
def counted (pieces : UInt64) : PlainRecord where
  key := .number (.natural 7)
  documentType := "products"
  index := .named "shop"
  fields := [("pieces", .number (.natural pieces))]
  mapping := none

/-- A product that is counted twice, the second time after a sale. -/
def recounted : List PlainRecord :=
  [counted 3, counted 2]

/-- An update that broke off between two counts leaves the second one when it is repeated. -/
theorem broken_off_update_settles :
    let engine := ofSettings EngineSettings.initial
    let nothing : Documents := fun _ => none
    let repeated : List Operation := List.replicate 2 (.update recounted)
    let takenBack : List Operation := [.update recounted, .delete recounted]
    let accepting := CannedTransport.initial.toTransport
    (∃ first ∈ turns breakingOnce [] engine repeated, ¬first.Completes breakingOnce) ∧
      (∀ last ∈ (turns breakingOnce [] engine repeated).getLast?,
        last.Completes breakingOnce) ∧
      (∃ after,
        RunLeaves breakingOnce [] engine repeated nothing after ∧
          after (Indexable.address (counted 2)) =
            some (.object (Indexable.fields (counted 2)))) ∧
      (∀ turn ∈ turns accepting [] engine takenBack, turn.Completes accepting) ∧
      ∃ after,
        RunLeaves accepting [] engine takenBack nothing after ∧
          after (Indexable.address (counted 2)) = none := by
  intro engine nothing repeated takenBack accepting
  obtain ⟨settles, takesBack⟩ := updates_can_be_repeated_and_removed recounted nothing
  have breaksOff :
      ∃ first ∈ turns breakingOnce [] engine repeated, ¬first.Completes breakingOnce := by
    refine ⟨_, List.mem_cons_self, fun completes => ?_⟩
    cases completes
  have goesThrough :
      ∀ last ∈ (turns breakingOnce [] engine repeated).getLast?,
        last.Completes breakingOnce := by
    rintro last ⟨rfl⟩
    rfl
  have bothGoThrough :
      ∀ turn ∈ turns accepting [] engine takenBack, turn.Completes accepting := by
    intro turn member
    rcases List.mem_cons.mp member with rfl | later
    · rfl
    · rcases List.mem_singleton.mp later with rfl
      rfl
  have leavesRepeated := Transport.Leaves.foldl_receive breakingOnce [] nothing
    ((turns breakingOnce [] engine repeated).flatMap (Turn.messages breakingOnce))
  have leavesTakenBack := Transport.Leaves.foldl_receive accepting [] nothing
    ((turns accepting [] engine takenBack).flatMap (Turn.messages accepting))
  refine ⟨breaksOff, goesThrough, ⟨_, leavesRepeated, ?_⟩, bothGoThrough,
    ⟨_, leavesTakenBack, ?_⟩⟩
  · rw [(settles breakingOnce [] engine 1 _ goesThrough leavesRepeated).1]
    rfl
  · have member : counted 2 ∈ recounted := by
      simp [recounted]
    exact (takesBack accepting [] engine _ bothGoThrough leavesTakenBack).1 _ member

end Engine

end Retrieval
