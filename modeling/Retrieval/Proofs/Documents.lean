import Retrieval.Proofs.Submissions

namespace Retrieval

/-!
# What requests leave of documents

A search engine holds documents at their addresses.  A request that writes
replaces the document at one address, and a request that removes takes it away;
the other requests change no document.  A request that is refused may have taken
effect all the same, so a course of messages relates the documents before it to
several that it can leave.  Where nothing is refused, it leaves only one.
-/

/-- Where a document stands. -/
structure Address where
  index : String
  type : String
  id : Json
  deriving Repr, DecidableEq

/-- The documents of a search engine, by their addresses. -/
def Documents : Type :=
  Address → Option Json

/-- A document that is to stand at an address from now on, or none. -/
structure Change where
  address : Address
  document : Option Json
  deriving Repr, DecidableEq

/-- The address that an envelope names, if it names all parts of one. -/
def Envelope.address? (envelope : Envelope) : Option Address :=
  match envelope.type, envelope.id with
  | some type, some id => some { index := envelope.index, type := type, id := id }
  | _, _ => none

namespace Message

/-- The change that a message asks for, if it asks for one. -/
def change? : Message → Option Change
  | .request (.index envelope) =>
      match envelope.address?, envelope.body with
      | some address, some body => some { address := address, document := some body }
      | _, _ => none
  | .request (.delete envelope) =>
      envelope.address?.map fun address => { address := address, document := none }
  | _ => none

end Message

namespace Documents

/-- The documents after a change, which touches one address. -/
def apply (documents : Documents) (change : Change) : Documents :=
  fun address => if address = change.address then change.document else documents address

/-- The documents after a message that takes effect. -/
def receive (documents : Documents) (message : Message) : Documents :=
  match message.change? with
  | some change => documents.apply change
  | none => documents

theorem receive_of_change
    {documents : Documents}
    {message : Message}
    {change : Change}
    (asked : message.change? = some change) :
    documents.receive message = documents.apply change := by
  simp only [receive, asked]

theorem receive_of_none
    {documents : Documents}
    {message : Message}
    (unchanging : message.change? = none) :
    documents.receive message = documents := by
  simp only [receive, unchanging]

end Documents

namespace Transport

/-- What a message may leave of documents: it takes effect, or it is refused and has none. -/
inductive Affects
    (transport : Transport)
    (history : List Message)
    (before : Documents) :
    Message → Documents → Prop where
  | taken
      {message : Message} :
      Affects transport history before message (before.receive message)
  | lost
      {request : Request}
      {cause : Error}
      (refused : transport.answer history request = .error cause) :
      Affects transport history before (.request request) before

/-- What messages that are sent one after another may leave of documents. -/
inductive Leaves (transport : Transport) :
    List Message → Documents → List Message → Documents → Prop where
  | finished
      {history : List Message}
      {documents : Documents} :
      Leaves transport history documents [] documents
  | sent
      {history others : List Message}
      {message : Message}
      {before between after : Documents}
      (affects : transport.Affects history before message between)
      (rest : Leaves transport (history ++ [message]) between others after) :
      Leaves transport history before (message :: others) after

namespace Leaves

variable
  {transport : Transport}
  {history : List Message}
  {before after : Documents}

/-- Some documents are left by every course, such as those for which all of it takes effect. -/
theorem foldl_receive
    (transport : Transport)
    (history : List Message)
    (before : Documents)
    (messages : List Message) :
    transport.Leaves history before messages (messages.foldl Documents.receive before) := by
  induction messages generalizing history before with
  | nil =>
      exact .finished
  | cons message others inductionHypothesis =>
      exact .sent .taken (inductionHypothesis _ _)

/-- The documents between two courses are what the first leaves to the second. -/
theorem split
    {first second : List Message}
    (leaves : transport.Leaves history before (first ++ second) after) :
    ∃ between,
      transport.Leaves history before first between ∧
        transport.Leaves (history ++ first) between second after := by
  induction first generalizing history before with
  | nil =>
      refine ⟨before, .finished, ?_⟩
      simpa using leaves
  | cons message others inductionHypothesis =>
      cases leaves with
      | sent affects rest =>
          obtain ⟨between, leavesFirst, leavesSecond⟩ := inductionHypothesis rest
          refine ⟨between, .sent affects leavesFirst, ?_⟩
          simpa using leavesSecond

/-- A course of which nothing is refused leaves what it asks for. -/
theorem eq_of_accepted
    {messages : List Message}
    (leaves : transport.Leaves history before messages after)
    (accepted : transport.refusals history messages = []) :
    after = messages.foldl Documents.receive before := by
  induction leaves with
  | finished =>
      rfl
  | @sent history others message before between after affects rest inductionHypothesis =>
      rw [refusals, List.append_eq_nil_iff] at accepted
      obtain ⟨acceptedFirst, acceptedRest⟩ := accepted
      cases affects with
      | taken =>
          exact inductionHypothesis acceptedRest
      | lost refused =>
          simp [refusal?, refused] at acceptedFirst

/-- A document stays as it is while no message asks for a change at its address. -/
theorem apply_of_untouched
    {messages : List Message}
    (leaves : transport.Leaves history before messages after)
    {address : Address}
    (untouched :
      ∀ message ∈ messages, ∀ change,
        message.change? = some change →
        change.address ≠ address) :
    after address = before address := by
  induction leaves with
  | finished =>
      rfl
  | @sent history others message before between after affects rest inductionHypothesis =>
      obtain ⟨first, others⟩ := List.forall_mem_cons.mp untouched
      rw [inductionHypothesis others]
      cases affects with
      | taken =>
          cases asked : message.change? with
          | none =>
              rw [Documents.receive_of_none asked]
          | some change =>
              have elsewhere : address ≠ change.address := (first change asked).symm
              rw [Documents.receive_of_change asked, Documents.apply, if_neg elsewhere]
      | lost refused =>
          rfl

end Leaves

end Transport

section

variable {Record : Type} [Indexable Record]

/-- Where the document of a record stands. -/
def Indexable.address (record : Record) : Address where
  index := (Indexable.index record).name
  type := Indexable.documentType record
  id := Indexable.key record

/-- The change that a due request asks for. -/
def Due.change? : Due Record → Option Change
  | .mapping _ _ => none
  | .document record =>
      some {
        address := Indexable.address record
        document := some (.object (Indexable.fields record)) }
  | .removal record =>
      some {
        address := Indexable.address record
        document := none }

theorem Due.change?_message (due : Due Record) :
    due.message.change? = due.change? := by
  cases due with
  | _ =>
      rfl

namespace Documents

/-- A record is written to an address. -/
def IsWrittenTo (address : Address) (record : Record) : Prop :=
  Indexable.address record = address ∧ (Indexable.fields record).isEmpty = false

instance (address : Address) (record : Record) : Decidable (IsWrittenTo address record) :=
  inferInstanceAs (Decidable (_ ∧ _))

/-- Records written one after another: at each address stands the last one written to it. -/
def written (documents : Documents) (records : List Record) : Documents :=
  fun address =>
    match (records.filter fun record => IsWrittenTo address record).getLast? with
    | some record => some (.object (Indexable.fields record))
    | none => documents address

end Documents

end

end Retrieval
