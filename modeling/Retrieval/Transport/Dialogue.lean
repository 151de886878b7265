import Retrieval.Notice
import Retrieval.Transport.Request

namespace Retrieval

/-!
# Dialogues with the search engine

An operation is a dialogue: it sends requests one at a time, goes on in a way
that depends on each answer, and may leave notices.  A transport answers each
request as it likes, depending on all the messages that it has been sent so far.
Running a dialogue over a transport gives a transcript.
-/

/-- A course of requests, toggles and notices that ends with a value. -/
inductive Dialogue (α : Type) where
  | done (value : α)
  /-- Send a request and go on with its answer or its failure. -/
  | ask (request : Request) (resume : Except Error request.Answer → Dialogue α)
  | toggle (toggle : Toggle) (enabled : Bool) (rest : Dialogue α)
  | note (notice : Notice) (rest : Dialogue α)

namespace Dialogue

/-- Go on with another dialogue where one ends. -/
def andThen (next : α → Dialogue β) : Dialogue α → Dialogue β
  | .done value => next value
  | .ask request resume => .ask request fun answer => andThen next (resume answer)
  | .toggle changed enabled rest => .toggle changed enabled (andThen next rest)
  | .note remark rest => .note remark (andThen next rest)

instance : Monad Dialogue where
  pure := .done
  bind dialogue next := andThen next dialogue

/-- Send one request, and end with its answer or its failure. -/
def send (request : Request) : Dialogue (Except Error request.Answer) :=
  .ask request .done

/-- Tell the transport the state of a toggle. -/
def set (toggle : Toggle) (enabled : Bool) : Dialogue Unit :=
  .toggle toggle enabled (.done ())

/-- Leave a notice. -/
def say (notice : Notice) : Dialogue Unit :=
  .note notice (.done ())

end Dialogue

/-- A dialogue that may fail; what comes after a failure is not reached. -/
abbrev Action := ExceptT Error Dialogue

namespace Action

/-- Send one request, and fail as it fails. -/
def request (request : Request) : Action request.Answer :=
  ExceptT.mk (Dialogue.send request)

/-- Leave a notice, which cannot fail. -/
def say (notice : Notice) : Action Unit :=
  ExceptT.lift (Dialogue.say notice)

/-- The outcome of an operation that needs no request. -/
def ofExcept (outcome : Except Error α) : Action α :=
  ExceptT.mk (.done outcome)

end Action

/-- Answers each request, knowing all the messages before it. -/
structure Transport where
  answer : List Message → (request : Request) → Except Error request.Answer

/-- What a dialogue came to, what it sent and what it had to say. -/
structure Transcript (α : Type) where
  value : α
  messages : List Message
  notices : List Notice

namespace Transcript

/-- The requests that were sent, in their order. -/
def requests (transcript : Transcript α) : List Request :=
  transcript.messages.filterMap Message.request?

end Transcript

/-- Run a dialogue over a transport that has been sent some messages already. -/
def Dialogue.run (transport : Transport) : List Message → Dialogue α → Transcript α
  | _, .done value => { value := value, messages := [], notices := [] }
  | history, .ask request resume =>
      let message := Message.request request
      let rest :=
        run transport (history ++ [message]) (resume (transport.answer history request))
      { rest with messages := message :: rest.messages }
  | history, .toggle changed enabled next =>
      let message := Message.toggle changed enabled
      let rest := run transport (history ++ [message]) next
      { rest with messages := message :: rest.messages }
  | history, .note notice next =>
      let rest := run transport history next
      { rest with notices := notice :: rest.notices }

/--
A dialogue that goes on with another one sends the messages of the first, then
those of the second, which knows what the first has sent.
-/
theorem Dialogue.run_andThen
    (transport : Transport)
    (history : List Message)
    (dialogue : Dialogue α)
    (next : α → Dialogue β) :
    (andThen next dialogue).run transport history =
      let first := dialogue.run transport history
      let second := (next first.value).run transport (history ++ first.messages)
      { value := second.value
        messages := first.messages ++ second.messages
        notices := first.notices ++ second.notices } := by
  induction dialogue generalizing history with
  | done value =>
      simp [andThen, run]
  | ask request resume inductionHypothesis =>
      simp [andThen, run, inductionHypothesis]
  | toggle changed enabled rest inductionHypothesis =>
      simp [andThen, run, inductionHypothesis]
  | note remark rest inductionHypothesis =>
      simp [andThen, run, inductionHypothesis]

/-- Run an action over a transport that has been sent some messages already. -/
def Action.run
    (transport : Transport)
    (history : List Message)
    (action : Action α) :
    Transcript (Except Error α) :=
  Dialogue.run transport history (ExceptT.run action)

end Retrieval
