import Retrieval.Proofs.TypeMapping

namespace Retrieval

/-!
# Requests that are due

An engine that writes or removes records owes the search engine a list of
requests, each on behalf of one record.  An update owes the mapping of its first
record, if that is pending and says something, and the document of every record
with fields; a removal owes one request for every record.  They are submitted in
order until one is refused or the next one is for a record without an address;
nothing else is sent, and nothing is left out before that point.
-/

/-- A request that is due for a record. -/
inductive Due (Record : Type) where
  /-- The mapping of the record's type is pushed. -/
  | mapping (record : Record) (declared : Json)
  /-- The document of the record is written. -/
  | document (record : Record)
  /-- The document of the record is removed. -/
  | removal (record : Record)

namespace Due

variable {Record : Type} [Indexable Record]

/-- The record on whose behalf a request is due. -/
def record : Due Record → Record
  | .mapping record _ => record
  | .document record => record
  | .removal record => record

/-- The request itself, for a record that has an address. -/
def request : Due Record → Request
  | .mapping record declared =>
      let type := Indexable.documentType record
      .putMapping { Envelope.ofType (Indexable.index record).name type with
        body := some (Json.nested (DottedPath.parts type) declared) }
  | .document record =>
      .index {
        Envelope.ofDocument (Indexable.index record).name (Indexable.documentType record)
            (Indexable.key record) with
        body := some (.object (Indexable.fields record)) }
  | .removal record =>
      .delete
        (Envelope.ofDocument (Indexable.index record).name (Indexable.documentType record)
          (Indexable.key record))

/-- What a transport is told when a request that is due is sent. -/
def message (due : Due Record) : Message :=
  .request due.request

end Due

section

variable {Record : Type} [Indexable Record]

/--
Due requests are submitted to a transport one after another.  Each is sent if
its record has an address, and a refusal or a missing address ends the course.
-/
inductive Submits (transport : Transport) :
    List Message → List (Due Record) → List Message → Except Error Unit → Prop where
  | completed
      {history : List Message} :
      Submits transport history [] [] (.ok ())
  | unaddressed
      {history : List Message}
      {due : Due Record}
      {later : List (Due Record)}
      {fault : SetupFault}
      (lacking : Indexable.addressFault? due.record = some fault) :
      Submits transport history (due :: later) [] (.error (.configuration fault))
  | refused
      {history : List Message}
      {due : Due Record}
      {later : List (Due Record)}
      {cause : Error}
      (addressed : Indexable.addressFault? due.record = none)
      (answered : transport.answer history due.request = .error cause) :
      Submits transport history (due :: later) [due.message] (.error cause)
  | accepted
      {history messages : List Message}
      {due : Due Record}
      {later : List (Due Record)}
      {answer : due.request.Answer}
      {outcome : Except Error Unit}
      (addressed : Indexable.addressFault? due.record = none)
      (answered : transport.answer history due.request = .ok answer)
      (rest : Submits transport (history ++ [due.message]) later messages outcome) :
      Submits transport history (due :: later) (due.message :: messages) outcome

namespace Submits

variable
  {transport : Transport}
  {history messages : List Message}
  {dues : List (Due Record)}
  {outcome : Except Error Unit}

/-- What is due after a completed course is submitted with what that course has sent before. -/
theorem append_of_ok
    (first : Submits transport history dues messages (.ok ()))
    {later : List (Due Record)}
    {more : List Message}
    (second : Submits transport (history ++ messages) later more outcome) :
    Submits transport history (dues ++ later) (messages ++ more) outcome := by
  generalize done : (.ok () : Except Error Unit) = ended at first
  induction first with
  | completed =>
      simpa using second
  | unaddressed lacking =>
      cases done
  | refused addressed answered =>
      cases done
  | accepted addressed answered rest inductionHypothesis =>
      refine .accepted addressed answered (inductionHypothesis ?_ done)
      simpa using second

/-- What is due after a course that was broken off is not submitted. -/
theorem append_of_error
    {cause : Error}
    (first : Submits transport history dues messages (.error cause))
    (later : List (Due Record)) :
    Submits transport history (dues ++ later) messages (.error cause) := by
  generalize failed : (.error cause : Except Error Unit) = ended at first
  induction first with
  | completed =>
      cases failed
  | unaddressed lacking =>
      exact .unaddressed lacking
  | refused addressed answered =>
      exact .refused addressed answered
  | accepted addressed answered rest inductionHypothesis =>
      exact .accepted addressed answered (inductionHypothesis failed)

end Submits

/-- Where a course stops that has submitted some requests and has others before it. -/
inductive Stops
    (transport : Transport)
    (history : List Message)
    (done later : List (Due Record)) :
    Except Error Unit → Prop where
  | atEnd
      (finished : later = [])
      (accepted : transport.refusals history (done.map Due.message) = []) :
      Stops transport history done later (.ok ())
  | atRefusal
      {earlier : List (Due Record)}
      {last : Due Record}
      {cause : Error}
      (reached : done = earlier ++ [last])
      (accepted : transport.refusals history (earlier.map Due.message) = [])
      (answered :
        transport.answer (history ++ earlier.map Due.message) last.request = .error cause) :
      Stops transport history done later (.error cause)
  | beforeUnaddressed
      {next : Due Record}
      {rest : List (Due Record)}
      {fault : SetupFault}
      (reached : later = next :: rest)
      (accepted : transport.refusals history (done.map Due.message) = [])
      (lacking : Indexable.addressFault? next.record = some fault) :
      Stops transport history done later (.error (.configuration fault))

/--
What is due is submitted in order as far as a run gets: a first part of it is
sent, up to where the run stops, and all of it exactly if the run succeeds.
-/
def SubmitsInOrder
    (transport : Transport)
    (history : List Message)
    (dues : List (Due Record))
    (messages : List Message)
    (outcome : Except Error Unit) :
    Prop :=
  (∃ done later,
    dues = done ++ later ∧
      messages = done.map Due.message ∧
      (∀ due ∈ done, Indexable.addressFault? due.record = none) ∧
      Stops transport history done later outcome) ∧
    (outcome = .ok () ↔
      messages = dues.map Due.message ∧ transport.refusals history messages = [])

namespace Stops

variable
  {transport : Transport}
  {history : List Message}
  {done later : List (Due Record)}
  {outcome : Except Error Unit}

/-- A course stops where the rest of it stops after a request that was accepted. -/
theorem cons
    {due : Due Record}
    {answer : due.request.Answer}
    (answered : transport.answer history due.request = .ok answer)
    (stops : Stops transport (history ++ [due.message]) done later outcome) :
    Stops transport history (due :: done) later outcome := by
  have counts (others : List (Due Record)) :
      transport.refusals history ((due :: others).map Due.message) =
        transport.refusals (history ++ [due.message]) (others.map Due.message) := by
    simp [Transport.refusals, Transport.refusal?, Due.message, answered]
  cases stops with
  | atEnd finished accepted =>
      exact .atEnd finished ((counts done).trans accepted)
  | @atRefusal earlier last cause reached accepted refused =>
      have reachedLast : due :: done = (due :: earlier) ++ [last] := by
        rw [reached]
        rfl
      have refusedLast :
          transport.answer (history ++ (due :: earlier).map Due.message) last.request =
            .error cause := by
        simpa using refused
      exact .atRefusal reachedLast ((counts earlier).trans accepted) refusedLast
  | beforeUnaddressed reached accepted lacking =>
      exact .beforeUnaddressed reached ((counts done).trans accepted) lacking

end Stops

namespace Submits

variable
  {transport : Transport}
  {history messages : List Message}
  {dues : List (Due Record)}
  {outcome : Except Error Unit}

/-- What a course sends is a first part of what is due, for records with an address. -/
theorem splits
    (course : Submits transport history dues messages outcome) :
    ∃ done later,
      dues = done ++ later ∧
        messages = done.map Due.message ∧
        (∀ due ∈ done, Indexable.addressFault? due.record = none) ∧
        Stops transport history done later outcome := by
  induction course with
  | completed =>
      exact ⟨[], [], rfl, rfl, by simp, .atEnd rfl rfl⟩
  | @unaddressed history due later fault lacking =>
      exact ⟨[], due :: later, rfl, rfl, by simp, .beforeUnaddressed rfl rfl lacking⟩
  | @refused history due later cause addressed answered =>
      have reached : [due] = [] ++ [due] := rfl
      have refused :
          transport.answer (history ++ ([] : List (Due Record)).map Due.message) due.request =
            .error cause := by
        simpa using answered
      exact
        ⟨[due], later, rfl, rfl, by simpa using addressed, .atRefusal reached rfl refused⟩
  | @accepted history messages due later answer outcome addressed answered rest
      inductionHypothesis =>
      obtain ⟨done, remaining, split, sent, addressedAll, stops⟩ := inductionHypothesis
      refine ⟨due :: done, remaining, ?_, ?_, ?_, stops.cons answered⟩
      · rw [split]
        rfl
      · rw [sent]
        rfl
      · simpa using ⟨addressed, addressedAll⟩

/-- What a course sends is due, for a record with an address. -/
theorem due_of_sent
    (course : Submits transport history dues messages outcome)
    {message : Message}
    (member : message ∈ messages) :
    ∃ due ∈ dues, message = due.message ∧ Indexable.addressFault? due.record = none := by
  obtain ⟨done, later, split, sent, addressed, _⟩ := course.splits
  rw [sent] at member
  rcases List.mem_map.mp member with ⟨due, dueDone, rfl⟩
  have owed : due ∈ dues := by
    rw [split]
    exact List.mem_append_left later dueDone
  exact ⟨due, owed, rfl, addressed due dueDone⟩

/-- A course succeeds exactly if all that is due was sent and nothing was refused. -/
theorem eq_ok_iff
    (course : Submits transport history dues messages outcome) :
    outcome = .ok () ↔
      messages = dues.map Due.message ∧ transport.refusals history messages = [] := by
  induction course with
  | completed =>
      simp
  | unaddressed lacking =>
      simp
  | refused addressed answered =>
      simp [Due.message, transport.refusals_of_error _ answered]
  | accepted addressed answered rest inductionHypothesis =>
      rw [inductionHypothesis]
      simp [Transport.refusals, Transport.refusal?, Due.message, answered]

theorem inOrder
    (course : Submits transport history dues messages outcome) :
    SubmitsInOrder transport history dues messages outcome :=
  ⟨course.splits, course.eq_ok_iff⟩

end Submits

namespace Action

/-- An action submits what is due, whatever the transport answers. -/
def Carries (action : Action Unit) (dues : List (Due Record)) : Prop :=
  ∀ transport history,
    Submits transport history dues
      (Action.run transport history action).messages
      (Action.run transport history action).value

namespace Carries

theorem nothing_of_pure :
    Carries (pure ()) ([] : List (Due Record)) :=
  fun _ _ => .completed

theorem nothing_of_say (notice : Notice) :
    Carries (Action.say notice) ([] : List (Due Record)) :=
  fun _ _ => .completed

/-- An action on the envelope of a record submits the request that is due for it. -/
theorem single
    {due : Due Record}
    {made : Except Error Envelope}
    {envelope : Envelope}
    {act : Envelope → Action Unit}
    (addressing : made = Indexable.addressed due.record envelope)
    (sends :
      ∀ transport history,
        Sends transport history Refusal.cause (act envelope) [due.message]) :
    Carries (do act (← Action.ofExcept made)) [due] := by
  intro transport history
  rw [addressing]
  cases lacking : Indexable.addressFault? due.record with
  | some fault =>
      simp only [Indexable.addressed, lacking, ofExcept_error_bind]
      exact .unaddressed lacking
  | none =>
      simp only [Indexable.addressed, lacking, ofExcept_ok_bind]
      rw [(sends transport history).messages, (sends transport history).value]
      cases answered : transport.answer history due.request with
      | ok answer =>
          rw [Due.message, transport.refusals_of_ok history answered]
          exact .accepted lacking answered .completed
      | error cause =>
          rw [Due.message, transport.refusals_of_error history answered]
          exact .refused lacking answered

/-- What two actions carry one after the other is due one after the other. -/
theorem andThen
    {first second : Action Unit}
    {dues later : List (Due Record)}
    (carries : Carries first dues)
    (follows : Carries second later) :
    Carries (do first; second) (dues ++ later) := by
  intro transport history
  have course := carries transport history
  cases ended : (Action.run transport history first).value with
  | ok value =>
      rw [run_bind_of_ok ended]
      rw [ended] at course
      exact course.append_of_ok (follows transport _)
  | error cause =>
      rw [run_bind_of_error ended]
      rw [ended] at course
      exact course.append_of_error later

end Carries

end Action

namespace Indexable

/-- The mapping of a record's type is due if its declaration says something. -/
def dueMapping (record : Record) : List (Due Record) :=
  match mapping record with
  | some declared =>
      if Json.Said (mapping record) declared then [.mapping record declared] else []
  | none => []

/-- The document of a record is due if it has any fields. -/
def dueDocument (record : Record) : List (Due Record) :=
  if (fields record).isEmpty then [] else [.document record]

/-- A mapping that is said is due, and nothing beside it. -/
theorem dueMapping_of_said
    {record : Record}
    {declared : Json}
    (said : Json.Said (mapping record) declared) :
    dueMapping record = [.mapping record declared] := by
  have held : mapping record = some declared := said.1
  rw [held] at said
  simp only [dueMapping, held, said, ↓reduceIte]

/-- Where no mapping is said, none is due. -/
theorem dueMapping_of_unsaid
    {record : Record}
    (unsaid : ∀ declared, ¬ Json.Said (mapping record) declared) :
    dueMapping record = [] := by
  cases held : mapping record with
  | none =>
      simp only [dueMapping, held]
  | some declared =>
      rw [held] at unsaid
      simp only [dueMapping, held, unsaid, ↓reduceIte]

/-- Whatever a type declares, its mapping is said or nothing is due. -/
theorem dueMapping_cases (record : Record) :
    (∃ declared,
        Json.Said (mapping record) declared ∧
          dueMapping record = [.mapping record declared]) ∨
      ((∀ declared, ¬ Json.Said (mapping record) declared) ∧ dueMapping record = []) := by
  by_cases speaks : ∃ declared, Json.Said (mapping record) declared
  · obtain ⟨declared, said⟩ := speaks
    exact .inl ⟨declared, said, dueMapping_of_said said⟩
  · have unsaid : ∀ declared, ¬ Json.Said (mapping record) declared :=
      not_exists.mp speaks
    exact .inr ⟨unsaid, dueMapping_of_unsaid unsaid⟩

theorem mem_dueMapping_iff {record : Record} {due : Due Record} :
    due ∈ dueMapping record ↔
      ∃ declared,
        Json.Said (mapping record) declared ∧ due = .mapping record declared := by
  rcases dueMapping_cases record with ⟨declared, said, isDue⟩ | ⟨unsaid, nothing⟩
  · rw [isDue, List.mem_singleton]
    constructor
    · rintro rfl
      exact ⟨declared, said, rfl⟩
    · rintro ⟨other, saidToo, rfl⟩
      rw [Option.some.inj (saidToo.1.symm.trans said.1)]
  · simp [nothing, unsaid]

theorem mem_dueDocument_iff {record : Record} {due : Due Record} :
    due ∈ dueDocument record ↔
      (fields record).isEmpty = false ∧ due = .document record := by
  by_cases empty : (fields record).isEmpty = true
  · simp [dueDocument, empty]
  · simp [dueDocument, empty]

theorem mappingEnvelope_eq (record : Record) (declared : Json) :
    mappingEnvelope record declared =
      addressed record
        { Envelope.ofType (index record).name (documentType record) with
          body := some (Json.nested (DottedPath.parts (documentType record)) declared) } := by
  rw [mappingEnvelope, Envelope.forType_eq]
  exact addressed_bind (Envelope.set_body_of_none rfl _ _)

/-- Pushing the mapping of a record submits it if it is said, and nothing otherwise. -/
theorem updateMapping_carries (record : Record) :
    Action.Carries (updateMapping record) (dueMapping record) := by
  rcases dueMapping_cases record with ⟨declared, said, isDue⟩ | ⟨unsaid, nothing⟩
  · rw [isDue, updateMapping, mapping?_of_said said]
    refine .single (mappingEnvelope_eq record declared) fun transport history => ?_
    have pushes :
        Action.Sends transport history Refusal.cause
          (Action.request (Due.mapping record declared).request)
          [(Due.mapping record declared).message] :=
      .request rfl (fun _ accepted => accepted) (fun _ refused => refused)
    have noticed :=
      pushes.andThen fun _ =>
        .say (.mappingUpdated (documentType record) (index record).name)
    rw [transport.goOn_nil] at noticed
    exact noticed
  · have silent : mapping? record = none :=
      Json.filter_isBlank_eq_none_iff.mpr unsaid
    rw [nothing, updateMapping, silent]
    exact .nothing_of_say _

end Indexable

namespace Engine

theorem documentEnvelope_eq (record : Record) :
    documentEnvelope record =
      Indexable.addressed record
        { Envelope.ofDocument (Indexable.index record).name (Indexable.documentType record)
            (Indexable.key record) with
          body := some (.object (Indexable.fields record)) } := by
  rw [documentEnvelope, Envelope.forDocument_eq]
  refine Indexable.addressed_bind ?_
  rw [Envelope.set, DottedPath.ofText_of_dotFree (by decide)]
  rfl

theorem indexRecord_carries (record : Record) :
    Action.Carries (indexRecord record) (Indexable.dueDocument record) := by
  by_cases empty : (Indexable.fields record).isEmpty = true
  · simp only [indexRecord, Indexable.dueDocument, empty, ↓reduceIte]
    exact .nothing_of_say _
  · simp only [indexRecord, Indexable.dueDocument, empty]
    refine .single (documentEnvelope_eq record) fun transport history => ?_
    exact .request rfl (fun _ accepted => accepted) (fun _ refused => refused)

theorem deleteRecord_carries (record : Record) :
    Action.Carries (deleteRecord record) [.removal record] := by
  refine .single (Envelope.forDocument_eq record) fun transport history => ?_
  exact .request rfl (fun _ accepted => accepted) (fun _ refused => refused)

/-- Doing what is due for each item of a list submits all of that in the order of the list. -/
theorem forEach_carries
    {act : Item → Action Unit}
    {dues : Item → List (Due Record)}
    (each : ∀ item, Action.Carries (act item) (dues item))
    (items : List Item) :
    Action.Carries (forEach act items) (items.flatMap dues) := by
  induction items with
  | nil =>
      exact .nothing_of_pure
  | cons first rest inductionHypothesis =>
      exact .andThen (each first) inductionHypothesis

/-- What an update owes: the mapping of its first record, if that is pending, and the documents. -/
def dueInUpdate (engine : Engine) (records : List Record) : List (Due Record) :=
  (if engine.mappingPending then records.head?.toList.flatMap Indexable.dueMapping else [])
    ++ records.flatMap Indexable.dueDocument

/-- What is due in an update is a mapping or a document of one of its records. -/
theorem exists_of_mem_dueInUpdate
    {engine : Engine}
    {records : List Record}
    {due : Due Record}
    (owed : due ∈ engine.dueInUpdate records) :
    ∃ record ∈ records,
      due ∈ Indexable.dueMapping record ∨ due ∈ Indexable.dueDocument record := by
  rcases List.mem_append.mp owed with mapping | document
  · split at mapping
    · rcases List.mem_flatMap.mp mapping with ⟨first, isFirst, mapping⟩
      have member : first ∈ records :=
        List.mem_of_mem_head? (Option.mem_toList.mp isFirst)
      exact ⟨first, member, .inl mapping⟩
    · cases mapping
  · rcases List.mem_flatMap.mp document with ⟨record, member, document⟩
    exact ⟨record, member, .inr document⟩

/-- What a removal owes: one request for every record. -/
def dueInDelete (records : List Record) : List (Due Record) :=
  records.map .removal

theorem pushPending_carries (engine : Engine) (records : List Record) :
    Action.Carries (engine.pushPending records)
      (if engine.mappingPending then records.head?.toList.flatMap Indexable.dueMapping
        else []) := by
  cases pending : engine.mappingPending with
  | false =>
      simp only [pushPending, pending]
      exact .nothing_of_pure
  | true =>
      cases records with
      | nil =>
          simp only [pushPending, pending]
          exact .nothing_of_pure
      | cons first rest =>
          simp only [pushPending, pending]
          simpa using Indexable.updateMapping_carries first

theorem writeRecords_carries (engine : Engine) (records : List Record) :
    Action.Carries (engine.writeRecords records) (engine.dueInUpdate records) :=
  .andThen (engine.pushPending_carries records) (forEach_carries indexRecord_carries records)

theorem delete_carries (records : List Record) :
    Action.Carries (delete records) (dueInDelete records) := by
  rw [dueInDelete, List.map_eq_flatMap]
  exact forEach_carries deleteRecord_carries records

theorem update_submits
    (engine : Engine)
    (records : List Record)
    (transport : Transport)
    (history : List Message) :
    Submits transport history (engine.dueInUpdate records)
      (Dialogue.run transport history (engine.update records)).messages
      (Dialogue.run transport history (engine.update records)).value.1 := by
  rw [run_update]
  exact engine.writeRecords_carries records transport history

/--
For every engine, every list of records and every transport, an update and a
removal send a first part of what they owe, in order and for records with an
address.  They stop at the first refusal, which is passed on, or before the
first request for a record without an address, which is a fault of set-up, and
they succeed exactly if everything was sent and accepted.
-/
theorem sends_first_part_of_dues
    (engine : Engine)
    (records : List Record)
    (transport : Transport)
    (history : List Message) :
    SubmitsInOrder transport history (engine.dueInUpdate records)
        (Dialogue.run transport history (engine.update records)).messages
        (Dialogue.run transport history (engine.update records)).value.1 ∧
      SubmitsInOrder transport history (dueInDelete records)
        (Action.run transport history (delete records)).messages
        (Action.run transport history (delete records)).value ∧
      ∀ record : Record,
        (Due.document record).request.document =
            .object [
              ("index", .string (Indexable.index record).name),
              ("type", .string (Indexable.documentType record)),
              ("id", Indexable.key record),
              ("body", .object (Indexable.fields record))] ∧
          (Due.removal record).request.document =
            .object [
              ("index", .string (Indexable.index record).name),
              ("type", .string (Indexable.documentType record)),
              ("id", Indexable.key record)] ∧
          ∀ declared,
            (Due.mapping record declared).request.document =
              .object [
                ("index", .string (Indexable.index record).name),
                ("type", .string (Indexable.documentType record)),
                ("body",
                  Json.nested (DottedPath.parts (Indexable.documentType record)) declared)] := by
  refine ⟨?_, ?_, fun record => ⟨rfl, rfl, fun declared => rfl⟩⟩
  · exact (engine.update_submits records transport history).inOrder
  · exact (delete_carries records transport history).inOrder

/-- A record of the same type as the plainly named one, with a field to be written. -/
def fieldedRecord : PlainRecord :=
  { plainlyNamed with key := .string "1", fields := [("name", .string "phone")] }

/-- A record without a type and without fields. -/
def untypedRecord : PlainRecord :=
  { plainlyNamed with documentType := "" }

/--
A pending mapping is sent, although its record has no fields, and then the one
document that there is; the record without a type has nothing to be written and is
no fault.
-/
theorem pending_mapping_sent_before_documents :
    let engine := ofSettings (EngineSettings.initial.withUpdateMapping true)
    let records := [plainlyNamed, fieldedRecord, untypedRecord]
    let updated :=
      Dialogue.run CannedTransport.initial.toTransport [] (engine.update records)
    updated.value.1 = .ok () ∧
      ∃ mapping document,
        updated.messages = [.request (.putMapping mapping), .request (.index document)] ∧
          mapping.toJson =
            .object [
              ("index", .string "shop"),
              ("type", .string "products"),
              ("body", .object [("products", closedMapping)])] ∧
          document.toJson =
            .object [
              ("index", .string "shop"),
              ("type", .string "products"),
              ("id", .string "1"),
              ("body", .object [("name", .string "phone")])] := by
  intro engine records updated
  obtain ⟨⟨_, succeeds⟩, _, documents⟩ :=
    engine.sends_first_part_of_dues records CannedTransport.initial.toTransport []
  have succeeded : updated.value.1 = .ok () :=
    rfl
  have owed :
      engine.dueInUpdate records =
        [.mapping plainlyNamed closedMapping, .document fieldedRecord] := by
    have unfolded :
        engine.dueInUpdate records =
          Indexable.dueMapping plainlyNamed ++ [.document fieldedRecord] :=
      rfl
    rw [unfolded, Indexable.dueMapping_of_said closedMapping_said, List.singleton_append]
  obtain ⟨sent, _⟩ := succeeds.mp succeeded
  rw [owed] at sent
  obtain ⟨_, _, pushed⟩ := documents plainlyNamed
  obtain ⟨written, _⟩ := documents fieldedRecord
  have parts : DottedPath.parts (Indexable.documentType plainlyNamed) = ["products"] := by
    decide
  have underType := pushed closedMapping
  rw [parts] at underType
  exact ⟨succeeded, _, _, sent, underType, written⟩

end Engine

end

end Retrieval
