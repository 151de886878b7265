import Retrieval.Transport.Dialogue

namespace Retrieval

/-!
# Courses of messages

The messages of a run are a course, and the transport accepts or refuses each
request of it.  Most operations stop at the first refusal and report it.  This
module says what such an operation sends and what it comes to, and how that is
put together from its parts.
-/

namespace Dialogue

theorem andThen_done (dialogue : Dialogue α) :
    andThen .done dialogue = dialogue := by
  induction dialogue with
  | done value =>
      rfl
  | ask request resume inductionHypothesis =>
      simp only [andThen, inductionHypothesis]
  | toggle changed enabled rest inductionHypothesis =>
      simp only [andThen, inductionHypothesis]
  | note remark rest inductionHypothesis =>
      simp only [andThen, inductionHypothesis]

theorem andThen_assoc
    (dialogue : Dialogue α)
    (next : α → Dialogue β)
    (last : β → Dialogue γ) :
    andThen last (andThen next dialogue) =
      andThen (fun value => andThen last (next value)) dialogue := by
  induction dialogue with
  | done value =>
      rfl
  | ask request resume inductionHypothesis =>
      simp only [andThen, inductionHypothesis]
  | toggle changed enabled rest inductionHypothesis =>
      simp only [andThen, inductionHypothesis]
  | note remark rest inductionHypothesis =>
      simp only [andThen, inductionHypothesis]

instance : LawfulMonad Dialogue :=
  LawfulMonad.mk' Dialogue
    (fun dialogue => andThen_done dialogue)
    (fun _ _ => rfl)
    andThen_assoc

/-- A request is sent, and its answer is what the rest goes on with. -/
@[simp] theorem run_send_bind
    (transport : Transport)
    (history : List Message)
    (request : Request)
    (next : Except Error request.Answer → Dialogue α) :
    Dialogue.run transport history (send request >>= next) =
      let rest :=
        Dialogue.run transport (history ++ [.request request])
          (next (transport.answer history request))
      { rest with messages := .request request :: rest.messages } :=
  rfl

/-- A notice is left, and nothing is sent for it. -/
@[simp] theorem run_say_bind
    (transport : Transport)
    (history : List Message)
    (notice : Notice)
    (next : Unit → Dialogue α) :
    Dialogue.run transport history (say notice >>= next) =
      let rest := Dialogue.run transport history (next ())
      { rest with notices := notice :: rest.notices } :=
  rfl

/-- Reading the value of a dialogue in another way sends nothing and says nothing. -/
theorem run_bind_pure
    (transport : Transport)
    (history : List Message)
    (dialogue : Dialogue α)
    (read : α → β) :
    Dialogue.run transport history (dialogue >>= fun value => pure (read value)) =
      let first := Dialogue.run transport history dialogue
      { value := read first.value
        messages := first.messages
        notices := first.notices } := by
  refine (run_andThen transport history dialogue fun value => .done (read value)).trans ?_
  simp [Dialogue.run]

end Dialogue

namespace Action

variable {transport : Transport} {history : List Message}

@[simp] theorem run_request (request : Request) :
    Action.run transport history (Action.request request) =
      { value := transport.answer history request
        messages := [.request request]
        notices := [] } :=
  rfl

@[simp] theorem ofExcept_ok_bind
    (value : α)
    (next : α → Action β) :
    Action.ofExcept (.ok value) >>= next = next value :=
  rfl

@[simp] theorem ofExcept_error_bind
    (cause : Error)
    (next : α → Action β) :
    Action.ofExcept (.error cause) >>= next = Action.ofExcept (.error cause) :=
  rfl

/-- Wrapping the failure of an action changes its outcome alone. -/
@[simp] theorem run_adapt
    (wrap : Error → Error)
    (action : Action α) :
    Action.run transport history (ExceptT.adapt wrap action) =
      { Action.run transport history action with
        value := (Action.run transport history action).value.mapError wrap } := by
  have unfolded :
      Action.run transport history (ExceptT.adapt wrap action) =
        Dialogue.run transport history
          (Dialogue.andThen
            (fun outcome => .done (Except.mapError wrap outcome))
            (ExceptT.run action)) :=
    rfl
  rw [unfolded, Dialogue.run_andThen]
  simp [Dialogue.run, Action.run]

theorem run_adapt_request
    (transport : Transport)
    (history : List Message)
    (wrap : Error → Error)
    (request : Request) :
    Action.run transport history (ExceptT.adapt wrap (Action.request request)) =
      { value := (transport.answer history request).mapError wrap
        messages := [.request request]
        notices := [] } := by
  rw [run_adapt, run_request]

/-- What comes after a success is run with what has been sent before it. -/
theorem run_bind_of_ok
    {action : Action α}
    {value : α}
    (succeeds : (Action.run transport history action).value = .ok value)
    (next : α → Action β) :
    Action.run transport history (action >>= next) =
      let first := Action.run transport history action
      let second := Action.run transport (history ++ first.messages) (next value)
      { value := second.value
        messages := first.messages ++ second.messages
        notices := first.notices ++ second.notices } := by
  have unfolded :
      Action.run transport history (action >>= next) =
        Dialogue.run transport history
          (Dialogue.andThen (ExceptT.bindCont next) (ExceptT.run action)) :=
    rfl
  -- Actions are joined as dialogues, whose runs follow one another.
  rw [unfolded, Dialogue.run_andThen]
  have outcome :
      (Dialogue.run transport history (ExceptT.run action)).value = .ok value :=
    succeeds
  simp only [outcome, ExceptT.bindCont]
  rfl

/-- What comes after a failure is not reached. -/
theorem run_bind_of_error
    {action : Action α}
    {cause : Error}
    (fails : (Action.run transport history action).value = .error cause)
    (next : α → Action β) :
    Action.run transport history (action >>= next) =
      { Action.run transport history action with value := .error cause } := by
  have unfolded :
      Action.run transport history (action >>= next) =
        Dialogue.run transport history
          (Dialogue.andThen (ExceptT.bindCont next) (ExceptT.run action)) :=
    rfl
  rw [unfolded, Dialogue.run_andThen]
  have outcome :
      (Dialogue.run transport history (ExceptT.run action)).value = .error cause :=
    fails
  simp only [outcome, ExceptT.bindCont]
  simp [Dialogue.run, pure, Action.run]

end Action

namespace Action

/-- An action sends messages of one kind alone, whatever it is answered. -/
def SendsOnly (allowed : Message → Prop) (action : Action α) : Prop :=
  ∀ transport history,
    ∀ message ∈ (Action.run transport history action).messages, allowed message

namespace SendsOnly

variable {allowed : Message → Prop}

theorem of_silent
    {action : Action α}
    (silent :
      ∀ transport history, (Action.run transport history action).messages = []) :
    SendsOnly allowed action := by
  intro transport history message member
  simp [silent transport history] at member

theorem request
    {sent : Request}
    (permitted : allowed (.request sent)) :
    SendsOnly allowed (Action.request sent) := by
  intro transport history message member
  simp only [run_request, List.mem_singleton] at member
  rw [member]
  exact permitted

theorem bind
    {action : Action α}
    {next : α → Action β}
    (first : SendsOnly allowed action)
    (second : ∀ value, SendsOnly allowed (next value)) :
    SendsOnly allowed (action >>= next) := by
  intro transport history message member
  cases outcome : (Action.run transport history action).value with
  | ok value =>
      simp only [run_bind_of_ok outcome, List.mem_append] at member
      rcases member with before | after
      · exact first transport history message before
      · exact second value transport _ message after
  | error cause =>
      simp only [run_bind_of_error outcome] at member
      exact first transport history message member

end SendsOnly

end Action

/-- A request that was refused, with what the transport said. -/
structure Refusal where
  request : Request
  cause : Error
  deriving Repr, DecidableEq

namespace Transport

/-- The refusal of a message, if it is a request that fails. -/
def refusal? (transport : Transport) (history : List Message) : Message → Option Refusal
  | .request request =>
      match transport.answer history request with
      | .ok _ => none
      | .error cause => some { request := request, cause := cause }
  | .toggle .. => none

/-- The refusals in a course of messages, in their order. -/
def refusals (transport : Transport) : List Message → List Message → List Refusal
  | _, [] => []
  | history, message :: rest =>
      (transport.refusal? history message).toList
        ++ refusals transport (history ++ [message]) rest

variable (transport : Transport) (history : List Message)

@[simp] theorem refusals_nil :
    transport.refusals history [] = [] :=
  rfl

theorem refusals_append (first second : List Message) :
    transport.refusals history (first ++ second) =
      transport.refusals history first
        ++ transport.refusals (history ++ first) second := by
  induction first generalizing history with
  | nil =>
      simp [refusals]
  | cons message rest inductionHypothesis =>
      simp [refusals, inductionHypothesis]

/-- Go on with more messages, unless one of those that were sent has been refused. -/
def goOn (sent more : List Message) : List Message :=
  sent ++ if transport.refusals history sent = [] then more else []

@[simp] theorem goOn_nil (sent : List Message) :
    transport.goOn history sent [] = sent := by
  simp [goOn]

theorem goOn_of_accepted
    {sent : List Message}
    (accepted : transport.refusals history sent = [])
    (more : List Message) :
    transport.goOn history sent more = sent ++ more := by
  simp [goOn, accepted]

theorem goOn_of_refused
    {sent : List Message}
    (refused : transport.refusals history sent ≠ [])
    (more : List Message) :
    transport.goOn history sent more = sent := by
  simp [goOn, refused]

theorem mem_of_mem_goOn
    {sent more : List Message}
    {message : Message}
    (member : message ∈ transport.goOn history sent more) :
    message ∈ sent ∨ message ∈ more := by
  simp only [goOn, List.mem_append] at member
  rcases member with before | after
  · exact .inl before
  · split at after
    · exact .inr after
    · simp at after

/-- Messages that were all accepted count as history. -/
theorem goOn_append
    {first : List Message}
    (accepted : transport.refusals history first = [])
    (sent more : List Message) :
    transport.goOn history (first ++ sent) more =
      first ++ transport.goOn (history ++ first) sent more := by
  simp [goOn, refusals_append, accepted]

theorem refusals_of_ok
    {request : Request}
    {answer : request.Answer}
    (accepted : transport.answer history request = .ok answer) :
    transport.refusals history [.request request] = [] := by
  simp [refusals, refusal?, accepted]

theorem refusals_of_error
    {request : Request}
    {cause : Error}
    (refused : transport.answer history request = .error cause) :
    transport.refusals history [.request request] =
      [{ request := request, cause := cause }] := by
  simp [refusals, refusal?, refused]

end Transport

/-- The outcome of an operation that stops at its first refusal and reports it. -/
def firstReported (report : Refusal → Error) : List Refusal → Except Error Unit
  | [] => .ok ()
  | first :: _ => .error (report first)

theorem firstReported_eq_ok_iff
    {report : Refusal → Error}
    {refusals : List Refusal} :
    firstReported report refusals = .ok () ↔ refusals = [] := by
  cases refusals with
  | nil =>
      simp [firstReported]
  | cons first rest =>
      simp [firstReported]

namespace Action

/-- After some messages, an action sends a course and reports the first refusal in it. -/
structure Sends
    (transport : Transport)
    (history : List Message)
    (report : Refusal → Error)
    (action : Action Unit)
    (course : List Message) : Prop where
  messages :
    (Action.run transport history action).messages = course
  value :
    (Action.run transport history action).value =
      firstReported report (transport.refusals history course)

namespace Sends

variable
  {transport : Transport}
  {history : List Message}
  {report : Refusal → Error}

theorem pure :
    Sends transport history report (pure ()) [] where
  messages := rfl
  value := rfl

theorem say (notice : Notice) :
    Sends transport history report (Action.say notice) [] where
  messages := rfl
  value := rfl

/-- One request is a course, and its refusal is what is reported. -/
theorem request
    {sent : Request}
    {action : Action Unit}
    (messages :
      (Action.run transport history action).messages = [.request sent])
    (accepted :
      ∀ answer,
        transport.answer history sent = .ok answer →
        (Action.run transport history action).value = .ok ())
    (refused :
      ∀ cause,
        transport.answer history sent = .error cause →
        (Action.run transport history action).value =
          .error (report { request := sent, cause := cause })) :
    Sends transport history report action [.request sent] where
  messages := messages
  value := by
    cases answered : transport.answer history sent with
    | ok answer =>
        rw [transport.refusals_of_ok history answered]
        exact accepted answer answered
    | error cause =>
        rw [transport.refusals_of_error history answered]
        exact refused cause answered

/-- The second of two actions is reached if nothing that the first sends is refused. -/
theorem andThen
    {first second : Action Unit}
    {course next : List Message}
    (sends : Sends transport history report first course)
    (follows :
      transport.refusals history course = [] →
      Sends transport (history ++ course) report second next) :
    Sends transport history report
      (do first; second)
      (transport.goOn history course next) := by
  cases refused : transport.refusals history course with
  | nil =>
      have succeeds : (Action.run transport history first).value = .ok () := by
        rw [sends.value, refused]
        rfl
      have sendsNext := follows refused
      have joined := run_bind_of_ok succeeds fun _ => second
      simp only [sends.messages] at joined
      rw [transport.goOn_of_accepted history refused]
      constructor
      · rw [joined]
        simp [sendsNext.messages]
      · rw [joined]
        simp [sendsNext.value, Transport.refusals_append, refused]
  | cons refusal others =>
      have fails :
          (Action.run transport history first).value = .error (report refusal) := by
        rw [sends.value, refused]
        rfl
      have stopped := run_bind_of_error fails fun _ => second
      rw [transport.goOn_of_refused history (by simp [refused])]
      constructor
      · rw [stopped]
        simp [sends.messages]
      · rw [stopped]
        simp [refused, firstReported]

end Sends

end Action

end Retrieval
