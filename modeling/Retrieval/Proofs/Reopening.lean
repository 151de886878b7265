import Retrieval.Index.Update
import Retrieval.Proofs.Addresses
import Retrieval.Proofs.Courses

namespace Retrieval

/-!
# An index is opened again

An update closes an index before it changes it.  The courses that an update can
take are listed here: unless the index is unnamed, unreachable or absent, a
course closes it, pushes what is declared for as long as nothing is refused,
and ends by opening it, whatever the transport answers.  The first refusal is
the one that is reported.
-/

namespace IndexDefinition

/-- A declared document is pushed by one request, and none if it says nothing. -/
inductive Pushes
    (declared : Option Json)
    (request : Envelope → Request)
    (document : Json → Json) :
    List Message → Prop where
  | said
      {value : Json}
      {envelope : Envelope}
      (holds : Json.Said declared value)
      (written : envelope.toJson = document value) :
      Pushes declared request document [.request (request envelope)]
  | unsaid
      (absent : ∀ value, ¬ Json.Said declared value) :
      Pushes declared request document []

/-- The document that addresses an index. -/
def addressDocument (name : String) : Json :=
  .object [("index", .string name)]

/-- The document that changes the settings of an index. -/
def settingsDocument (name : String) (settings : Json) : Json :=
  .object [
    ("index", .string name),
    ("body", .object [("settings", settings)])]

/-- The document that changes the mapping of all types of an index. -/
def mappingDocument (name : String) (mapping : Json) : Json :=
  .object [
    ("index", .string name),
    ("type", .string "_default_"),
    ("body", .object [("_default_", mapping)])]

/-- How an update reports a refusal; the failure of a push is passed on as it is. -/
def report (definition : IndexDefinition) (refusal : Refusal) : Error :=
  match refusal.request with
  | .indexExists _ => .indexOperation "check" definition.name refusal.cause
  | .closeIndex _ => .indexOperation "close" definition.name refusal.cause
  | .openIndex _ => .indexOperation "open" definition.name refusal.cause
  | _ => refusal.cause

/-- The courses that an update can take, with their outcomes. -/
inductive UpdateCourse
    (definition : IndexDefinition)
    (transport : Transport)
    (history : List Message) :
    List Message → Except Error Unit → Prop where
  | unnamed
      (empty : definition.name = "") :
      UpdateCourse definition transport history
        []
        (.error (.configuration .unnamedIndex))
  | unchecked
      {address : Envelope}
      {cause : Error}
      (named : definition.name ≠ "")
      (addressed : address.toJson = addressDocument definition.name)
      (refused : transport.answer history (.indexExists address) = .error cause) :
      UpdateCourse definition transport history
        [.request (.indexExists address)]
        (.error (.indexOperation "check" definition.name cause))
  | missing
      {address : Envelope}
      (named : definition.name ≠ "")
      (addressed : address.toJson = addressDocument definition.name)
      (absent : transport.answer history (.indexExists address) = .ok false) :
      UpdateCourse definition transport history
        [.request (.indexExists address)]
        (.error (.indexNotFound definition.name))
  | reopened
      {address : Envelope}
      {settings mapping changed : List Message}
      (named : definition.name ≠ "")
      (addressed : address.toJson = addressDocument definition.name)
      (found : transport.answer history (.indexExists address) = .ok true)
      (settingsPushed :
        Pushes definition.settings .putSettings
          (settingsDocument definition.name) settings)
      (mappingPushed :
        Pushes definition.defaultMapping .putMapping
          (mappingDocument definition.name) mapping)
      (changes :
        changed =
          transport.goOn history
            (transport.goOn history
              [.request (.indexExists address), .request (.closeIndex address)]
              settings)
            mapping) :
      UpdateCourse definition transport history
        (changed ++ [.request (.openIndex address)])
        (firstReported definition.report
          (transport.refusals history (changed ++ [.request (.openIndex address)])))

namespace Pushes

variable
  {declared : Option Json}
  {request : Envelope → Request}
  {document : Json → Json}
  {course : List Message}

theorem eq_request_of_mem
    (pushes : Pushes declared request document course)
    {message : Message}
    (member : message ∈ course) :
    ∃ envelope, message = .request (request envelope) := by
  cases pushes with
  | @said value envelope holds written =>
      exact ⟨envelope, List.mem_singleton.mp member⟩
  | unsaid absent =>
      simp at member

end Pushes

namespace UpdateCourse

variable
  {definition : IndexDefinition}
  {transport : Transport}
  {history messages : List Message}
  {outcome : Except Error Unit}

/-- An index that is closed is opened again by the last request, and by that one alone. -/
theorem opens_last
    (course : UpdateCourse definition transport history messages outcome)
    {address : Envelope}
    (closed : .request (.closeIndex address) ∈ messages) :
    ∃ earlier,
      messages = earlier ++ [.request (.openIndex address)] ∧
        ∀ other, .request (.openIndex other) ∉ earlier := by
  cases course with
  | unnamed empty =>
      simp at closed
  | unchecked named addressed rejected =>
      simp at closed
  | missing named addressed absent =>
      simp at closed
  | @reopened found settings mapping changed named addressed answered settingsPushed
      mappingPushed changes =>
      have sent :
          ∀ message ∈ changed,
            message = .request (.indexExists found) ∨
              message = .request (.closeIndex found) ∨
              (∃ envelope, message = .request (.putSettings envelope)) ∨
              ∃ envelope, message = .request (.putMapping envelope) := by
        intro message member
        rw [changes] at member
        rcases transport.mem_of_mem_goOn history member with before | inMapping
        · rcases transport.mem_of_mem_goOn history before with closing | inSettings
          · simp only [List.mem_cons, List.not_mem_nil, or_false] at closing
            rcases closing with checked | closed
            · exact .inl checked
            · exact .inr (.inl closed)
          · exact .inr (.inr (.inl (settingsPushed.eq_request_of_mem inSettings)))
        · exact .inr (.inr (.inr (mappingPushed.eq_request_of_mem inMapping)))
      have same : address = found := by
        have member : .request (.closeIndex address) ∈ changed := by
          simpa using closed
        simpa using sent _ member
      refine ⟨changed, by rw [same], ?_⟩
      intro other member
      simpa using sent _ member

/-- The first refusal of a course is the one that is reported. -/
theorem reports_first
    (course : UpdateCourse definition transport history messages outcome)
    {refusal : Refusal}
    {others : List Refusal}
    (refused : transport.refusals history messages = refusal :: others) :
    outcome = .error (definition.report refusal) := by
  cases course with
  | unnamed empty =>
      simp at refused
  | unchecked named addressed rejected =>
      rw [transport.refusals_of_error history rejected] at refused
      cases refused
      rfl
  | missing named addressed absent =>
      rw [transport.refusals_of_ok history absent] at refused
      simp at refused
  | reopened =>
      rw [refused]
      rfl

/-- An update succeeds exactly if the index exists and nothing is refused. -/
theorem succeeds_iff
    (course : UpdateCourse definition transport history messages outcome) :
    outcome = .ok () ↔
      transport.refusals history messages = [] ∧
        ∃ address rest,
          messages = .request (.indexExists address) :: rest ∧
            transport.answer history (.indexExists address) = .ok true := by
  cases course with
  | unnamed empty =>
      simp
  | unchecked named addressed rejected =>
      simp [transport.refusals_of_error history rejected]
  | missing named addressed absent =>
      simp [transport.refusals_of_ok history absent, absent]
  | @reopened found settings mapping changed named addressed answered settingsPushed
      mappingPushed changes =>
      rw [firstReported_eq_ok_iff]
      have leads :
          ∃ rest,
            changed ++ [.request (.openIndex found)] =
              .request (.indexExists found) :: rest := by
        rw [changes]
        exact ⟨_, rfl⟩
      obtain ⟨rest, shape⟩ := leads
      exact
        ⟨fun accepted => ⟨accepted, found, rest, shape, answered⟩, fun holds => holds.1⟩

end UpdateCourse

section Named

variable
  {definition : IndexDefinition}
  {transport : Transport}
  {history : List Message}

/-- The envelope of the settings is made, and holds them below one key. -/
theorem settingsEnvelope_of_named
    (named : definition.name ≠ "")
    (settings : Json) :
    ∃ envelope,
      definition.settingsEnvelope settings = .ok envelope ∧
        envelope.toJson = settingsDocument definition.name settings := by
  have spelled : "body.settings" = "body." ++ "settings" := by
    decide
  have oneKey : DottedPath.parts "settings" = ["settings"] :=
    DottedPath.parts_of_dotFree (by decide)
  refine
    ⟨{ Envelope.ofIndex definition.name with
        body := some (Json.single "settings" settings) }, ?_, rfl⟩
  rw [settingsEnvelope, Envelope.forIndex_of_named named, spelled]
  simp only [bind, Except.bind]
  rw [Envelope.set_body_of_none rfl, oneKey]
  rfl

/-- The envelope of the default mapping is made, and holds it below the default type. -/
theorem mappingEnvelope_of_named
    (named : definition.name ≠ "")
    (mapping : Json) :
    ∃ envelope,
      definition.mappingEnvelope mapping = .ok envelope ∧
        envelope.toJson = mappingDocument definition.name mapping := by
  have oneKey : DottedPath.parts defaultMappingType = [defaultMappingType] :=
    DottedPath.parts_of_dotFree (by decide)
  have typed :
      (Envelope.ofIndex definition.name).set "type" (.string defaultMappingType) =
        .ok { Envelope.ofIndex definition.name with type := some defaultMappingType } := by
    rw [Envelope.set, DottedPath.ofText_of_dotFree (by decide)]
    rfl
  refine
    ⟨{ Envelope.ofIndex definition.name with
        type := some defaultMappingType
        body := some (Json.single defaultMappingType mapping) }, ?_, rfl⟩
  rw [mappingEnvelope, Envelope.forIndex_of_named named]
  simp only [bind, Except.bind]
  rw [typed]
  simp only
  rw [Envelope.set_body_of_none rfl, oneKey]
  rfl

/-- An action that sends a request for what is said, and nothing otherwise, pushes it. -/
theorem sends_pushes
    {declared : Option Json}
    {request : Envelope → Request}
    {document : Json → Json}
    {action : Action Unit}
    (silent : pushed? declared = none → action = pure ())
    (speaks :
      ∀ value,
        pushed? declared = some value →
        ∃ envelope,
          envelope.toJson = document value ∧
            ∀ transport history,
              Action.Sends transport history definition.report action
                [.request (request envelope)]) :
    ∃ course,
      Pushes declared request document course ∧
        ∀ transport history,
          Action.Sends transport history definition.report action course := by
  cases said : pushed? declared with
  | none =>
      refine ⟨[], .unsaid ?_, ?_⟩
      · intro value holds
        have kept : pushed? declared = some value :=
          Json.filter_isBlank_eq_some_iff.mpr holds
        simp [said] at kept
      · intro transport history
        rw [silent said]
        exact .pure
  | some value =>
      obtain ⟨envelope, written, sends⟩ := speaks value said
      exact
        ⟨[.request (request envelope)],
          .said (Json.filter_isBlank_eq_some_iff.mp said) written, sends⟩

/-- The settings are pushed if they say something. -/
theorem applySettings_sends
    (named : definition.name ≠ "") :
    ∃ course,
      Pushes definition.settings .putSettings (settingsDocument definition.name) course ∧
        ∀ transport history,
          Action.Sends transport history definition.report definition.applySettings
            course := by
  apply sends_pushes
  · intro unsaid
    simp only [applySettings, unsaid]
  · intro settings said
    obtain ⟨envelope, made, written⟩ := settingsEnvelope_of_named named settings
    refine ⟨envelope, written, ?_⟩
    intro transport history
    simp only [applySettings, said, made, Action.ofExcept_ok_bind]
    exact .request rfl (fun _ accepted => accepted) (fun _ refused => refused)

/-- The default mapping is pushed if it says something. -/
theorem applyMapping_sends
    (named : definition.name ≠ "") :
    ∃ course,
      Pushes definition.defaultMapping .putMapping (mappingDocument definition.name)
          course ∧
        ∀ transport history,
          Action.Sends transport history definition.report definition.applyMapping
            course := by
  apply sends_pushes
  · intro unsaid
    simp only [applyMapping, unsaid]
  · intro mapping said
    obtain ⟨envelope, made, written⟩ := mappingEnvelope_of_named named mapping
    refine ⟨envelope, written, ?_⟩
    intro transport history
    simp only [applyMapping, said, made, Action.ofExcept_ok_bind]
    exact .request rfl (fun _ accepted => accepted) (fun _ refused => refused)

/-- Closing is one request, whose refusal is reported as one of closing. -/
theorem close_sends
    (definition : IndexDefinition)
    (transport : Transport)
    (history : List Message)
    (envelope : Envelope) :
    Action.Sends transport history definition.report
      (ExceptT.adapt (Error.indexOperation "close" definition.name)
        (Action.request (.closeIndex envelope)))
      [.request (.closeIndex envelope)] := by
  have ran :=
    Action.run_adapt_request transport history
      (Error.indexOperation "close" definition.name) (.closeIndex envelope)
  apply Action.Sends.request
  · exact congrArg Transcript.messages ran
  · intro answer accepted
    rw [accepted] at ran
    exact congrArg Transcript.value ran
  · intro cause refused
    rw [refused] at ran
    exact congrArg Transcript.value ran

/-- An index is closed, then its settings and its default mapping are pushed. -/
theorem closeAndApply_sends
    (named : definition.name ≠ "") :
    ∃ settings mapping,
      Pushes definition.settings .putSettings (settingsDocument definition.name)
          settings ∧
        Pushes definition.defaultMapping .putMapping (mappingDocument definition.name)
            mapping ∧
          ∀ transport history envelope,
            Action.Sends transport history definition.report
              (definition.closeAndApply envelope)
              (transport.goOn history
                (transport.goOn history [.request (.closeIndex envelope)] settings)
                mapping) := by
  obtain ⟨settings, settingsPushed, sendsSettings⟩ := applySettings_sends named
  obtain ⟨mapping, mappingPushed, sendsMapping⟩ := applyMapping_sends named
  refine ⟨settings, mapping, settingsPushed, mappingPushed, ?_⟩
  intro transport history envelope
  have closing := close_sends definition transport history envelope
  have settled := closing.andThen fun _ => sendsSettings transport _
  have applied := settled.andThen fun _ => sendsMapping transport _
  simpa [closeAndApply, bind_assoc] using applied

/-- Opening an index after a failure is one request, whatever comes of it. -/
theorem run_reopen_messages
    (envelope : Envelope)
    (cause : Error) :
    (Dialogue.run transport history (definition.reopen envelope cause)).messages =
      [.request (.openIndex envelope)] := by
  rw [reopen, Dialogue.run_say_bind,
    Dialogue.run_send_bind transport history (.openIndex envelope)]
  cases transport.answer history (.openIndex envelope) with
  | ok answer =>
      rfl
  | error failure =>
      rfl

/-- Opening an index after a failure leaves the failure as it is. -/
theorem run_reopen_error
    (definition : IndexDefinition)
    (transport : Transport)
    (history : List Message)
    (envelope : Envelope)
    (cause : Error) :
    let transcript :=
      Dialogue.run transport history do
        definition.reopen envelope cause
        return (.error cause : Except Error Unit)
    transcript.messages = [.request (.openIndex envelope)] ∧
      transcript.value = .error cause := by
  have ran :=
    Dialogue.run_andThen transport history (definition.reopen envelope cause)
      fun _ => .done (.error cause : Except Error Unit)
  constructor
  · refine (congrArg Transcript.messages ran).trans ?_
    simp [run_reopen_messages, Dialogue.run]
  · refine (congrArg Transcript.value ran).trans ?_
    simp [Dialogue.run]

/-- Opening an index after its changes is one request, whose refusal is reported. -/
theorem openAfter_sends
    (definition : IndexDefinition)
    (transport : Transport)
    (history : List Message)
    (envelope : Envelope) :
    Action.Sends transport history definition.report (definition.openAfter envelope)
      [.request (.openIndex envelope)] := by
  apply Action.Sends.request
  · rw [Action.run, openAfter, ExceptT.run_mk,
      Dialogue.run_send_bind transport history (.openIndex envelope)]
    cases transport.answer history (.openIndex envelope) with
    | ok answer =>
        rfl
    | error failure =>
        rfl
  · intro answer accepted
    rw [Action.run, openAfter, ExceptT.run_mk,
      Dialogue.run_send_bind transport history (.openIndex envelope), accepted]
    rfl
  · intro cause refused
    rw [Action.run, openAfter, ExceptT.run_mk,
      Dialogue.run_send_bind transport history (.openIndex envelope), refused]
    rfl

/-- Whatever becomes of the changes, opening the index comes after them. -/
theorem updateExisting_sends
    {envelope : Envelope}
    {changed : List Message}
    (applied :
      Action.Sends transport history definition.report
        (definition.closeAndApply envelope) changed) :
    Action.Sends transport history definition.report
      (definition.updateExisting envelope)
      (changed ++ [.request (.openIndex envelope)]) := by
  have ran :
      Action.run transport history (definition.updateExisting envelope) =
        Dialogue.run transport history
          (Dialogue.andThen (definition.openWhatever envelope)
            (ExceptT.run (definition.closeAndApply envelope))) :=
    rfl
  have messages :
      (Dialogue.run transport history
        (ExceptT.run (definition.closeAndApply envelope))).messages = changed :=
    applied.messages
  have value :
      (Dialogue.run transport history
        (ExceptT.run (definition.closeAndApply envelope))).value =
          firstReported definition.report (transport.refusals history changed) :=
    applied.value
  rw [Dialogue.run_andThen] at ran
  simp only [messages, value] at ran
  cases refused : transport.refusals history changed with
  | nil =>
      have opening := openAfter_sends definition transport (history ++ changed) envelope
      simp only [refused, firstReported, openWhatever] at ran
      constructor
      · rw [ran]
        exact congrArg (changed ++ ·) opening.messages
      · rw [ran, Transport.refusals_append, refused]
        exact opening.value
  | cons refusal others =>
      obtain ⟨reopened, reported⟩ :=
        run_reopen_error definition transport (history ++ changed) envelope
          (definition.report refusal)
      simp only [refused, firstReported, openWhatever] at ran
      constructor
      · rw [ran]
        exact congrArg (changed ++ ·) reopened
      · rw [ran, Transport.refusals_append, refused]
        exact reported

end Named

/-- An update takes one of the listed courses. -/
theorem update_course
    (definition : IndexDefinition)
    (transport : Transport)
    (history : List Message) :
    UpdateCourse definition transport history
      (Action.run transport history definition.update).messages
      (Action.run transport history definition.update).value := by
  by_cases unnamed : definition.name = ""
  · rw [update, Envelope.forIndex_of_unnamed unnamed, Action.ofExcept_error_bind]
    exact .unnamed unnamed
  · have named : definition.name ≠ "" := unnamed
    obtain ⟨address, made, addressed⟩ :
        ∃ address,
          Envelope.forIndex definition = .ok address ∧
            address.toJson = addressDocument definition.name :=
      ⟨_, Envelope.forIndex_of_named named, rfl⟩
    have checks :=
      Action.run_adapt_request transport history
        (Error.indexOperation "check" definition.name) (.indexExists address)
    rw [update, made, Action.ofExcept_ok_bind]
    cases answered : transport.answer history (.indexExists address) with
    | error cause =>
        rw [answered] at checks
        have fails := congrArg Transcript.value checks
        rw [Action.run_bind_of_error fails, checks]
        exact .unchecked named addressed answered
    | ok found =>
        rw [answered] at checks
        have succeeds := congrArg Transcript.value checks
        rw [Action.run_bind_of_ok succeeds, checks]
        cases found with
        | false =>
            exact .missing named addressed answered
        | true =>
            obtain ⟨settings, mapping, settingsPushed, mappingPushed, applied⟩ :=
              closeAndApply_sends named
            have existing :=
              updateExisting_sends
                (applied transport (history ++ [.request (.indexExists address)]) address)
            have accepted := transport.refusals_of_ok history answered
            have course :=
              UpdateCourse.reopened named addressed answered settingsPushed
                mappingPushed rfl
            -- The check was accepted, so the rest of the course is counted from after it.
            have closing :
                [Message.request (.indexExists address), .request (.closeIndex address)] =
                  [.request (.indexExists address)] ++ [.request (.closeIndex address)] :=
              rfl
            rw [closing, transport.goOn_append history accepted,
              transport.goOn_append history accepted, List.append_assoc,
              transport.refusals_append, accepted, List.nil_append] at course
            change UpdateCourse definition transport history
              (_ ++ (Action.run transport _ (definition.updateExisting _)).messages)
              (Action.run transport _ (definition.updateExisting _)).value
            rw [existing.messages, existing.value]
            exact course

/--
For every definition and every transport, an update takes one of the listed
courses.  An index that it closes is opened by its last request, the first
refusal is the one that is reported, and it succeeds exactly if the index exists
and nothing is refused.
-/
theorem update_opens_again
    (definition : IndexDefinition)
    (transport : Transport)
    (history : List Message) :
    let transcript := Action.run transport history definition.update
    UpdateCourse definition transport history transcript.messages transcript.value ∧
      (∀ address,
        .request (.closeIndex address) ∈ transcript.messages →
        ∃ earlier,
          transcript.messages = earlier ++ [.request (.openIndex address)] ∧
            ∀ other, .request (.openIndex other) ∉ earlier) ∧
      (∀ refusal others,
        transport.refusals history transcript.messages = refusal :: others →
        transcript.value = .error (definition.report refusal)) ∧
      (transcript.value = .ok () ↔
        transport.refusals history transcript.messages = [] ∧
          ∃ address rest,
            transcript.messages = .request (.indexExists address) :: rest ∧
              transport.answer history (.indexExists address) = .ok true) := by
  intro transcript
  have course :
      UpdateCourse definition transport history transcript.messages transcript.value :=
    update_course definition transport history
  exact
    ⟨course, fun _ closed => course.opens_last closed,
      fun _ _ refused => course.reports_first refused, course.succeeds_iff⟩

end IndexDefinition

end Retrieval
