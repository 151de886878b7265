import Retrieval.Proofs.EngineRuns
import Retrieval.Proofs.TypeMapping

namespace Retrieval

/-!
# What operations send

Each operation of an engine sends messages of its own kinds and no others,
whatever the transport answers.  A search with a callback sends what the
callback sends, so that a property of all messages of a run is one of the kinds
of its operations and of its callbacks.
-/

namespace Indexable

variable {Record : Type} [Indexable Record]

/-- A mapping is pushed by a request of its own kind, if at all. -/
theorem updateMapping_sendsOnly
    {allowed : Message → Prop}
    (permitted : ∀ envelope, allowed (.request (.putMapping envelope)))
    (record : Record) :
    Action.SendsOnly allowed (updateMapping record) := by
  rw [updateMapping]
  split
  · exact .of_silent fun _ _ => rfl
  · refine .bind (.of_silent fun _ _ => rfl) fun envelope => ?_
    refine .bind (.request (permitted envelope)) fun _ => ?_
    exact .of_silent fun _ _ => rfl

end Indexable

namespace Engine

namespace Operation

/-- The messages that an operation sends by itself, its callback apart. -/
def MaySend : Operation → Message → Prop
  | @update _ _ _, message =>
      ∃ envelope, message = .request (.putMapping envelope) ∨ message = .request (.index envelope)
  | @delete _ _ _, message => ∃ envelope, message = .request (.delete envelope)
  | @search _ _ _, message | @paginate _ _ _ _ _, message =>
      ∃ compiled options, message = .request (.search compiled options)
  | @searchRaw _ _ _ _, message => ∃ envelope, message = .request (.searchRaw envelope)
  | .setExplain enabled, message => message = .toggle .debug enabled
  | .setProfile enabled, message => message = .toggle .profile enabled
  | _, _ => False

/-- A callback that a search is handed over to sends messages of one kind alone. -/
def CallbackSendsOnly (allowed : Message → Prop) : Operation → Prop
  | @search _ _ draft | @paginate _ _ draft _ _ =>
      ∀ callback,
        draft.callback = some callback →
        ∀ query options, Action.SendsOnly allowed (callback query options)
  | _ => True

end Operation

variable {allowed : Message → Prop}

section

variable {Record : Type} [Indexable Record]

theorem update_sendsOnly
    (pushes : ∀ envelope, allowed (.request (.putMapping envelope)))
    (writes : ∀ envelope, allowed (.request (.index envelope)))
    (engine : Engine)
    (records : List Record) :
    Action.SendsOnly allowed (engine.writeRecords records) := by
  refine .bind ?_ fun _ => forEach_sendsOnly (fun record => ?_) records
  · unfold pushPending
    split
    · exact Indexable.updateMapping_sendsOnly pushes _
    · exact .of_silent fun _ _ => rfl
  · intro transport history message member
    obtain ⟨envelope, rfl⟩ := indexRecord_sendsOnly record transport history message member
    exact writes envelope

theorem delete_sendsOnly
    (removes : ∀ envelope, allowed (.request (.delete envelope)))
    (records : List Record) :
    Action.SendsOnly allowed (delete records) := by
  refine forEach_sendsOnly (fun record => ?_) records
  exact .bind (.of_silent fun _ _ => rfl) fun envelope => .request (removes envelope)

theorem searchRaw_sendsOnly
    (searches : ∀ envelope, allowed (.request (.searchRaw envelope)))
    (record : Record)
    (query : Json) :
    Action.SendsOnly allowed (searchRaw record query) :=
  .bind (.of_silent fun _ _ => rfl) fun envelope => .request (searches envelope)

end

/-- A search sends one request of its own, or what its callback sends. -/
theorem searchWith_sendsOnly
    [QueryStrategy Strategy]
    {draft : Draft Strategy}
    (searches : ∀ compiled options, allowed (.request (.search compiled options)))
    (quiet : (Operation.search draft).CallbackSendsOnly allowed)
    (engine : Engine)
    (options : SearchOptions) :
    Action.SendsOnly allowed (engine.searchWith draft options) := by
  rw [searchWith]
  split
  · next callback handed =>
    exact .bind (.of_silent fun _ _ => rfl) fun _ => quiet callback handed _ _
  · exact .request (searches _ _)

/-- A turn sends messages of the kinds of its operation and of its callback. -/
theorem Turn.sendsOnly
    {turn : Turn}
    (own : ∀ message, turn.operation.MaySend message → allowed message)
    (quiet : turn.operation.CallbackSendsOnly allowed)
    (transport : Transport) :
    ∀ message ∈ turn.messages transport, allowed message := by
  obtain ⟨operation, engine, history⟩ := turn
  simp only [messages, transcript]
  intro message member
  cases operation with
  | update records =>
      simp only [perform, Dialogue.run_bind_pure, run_update] at member
      refine update_sendsOnly ?_ ?_ engine records transport history message member
      · exact fun envelope => own _ ⟨envelope, .inl rfl⟩
      · exact fun envelope => own _ ⟨envelope, .inr rfl⟩
  | delete records =>
      rw [perform, run_conduct] at member
      exact delete_sendsOnly (fun envelope => own _ ⟨envelope, rfl⟩) records
        transport history message member
  | search draft =>
      rw [perform, run_conduct] at member
      exact searchWith_sendsOnly (fun compiled options => own _ ⟨compiled, options, rfl⟩)
        quiet engine _ transport history message member
  | paginate draft perPage page =>
      rw [perform, run_conduct] at member
      exact searchWith_sendsOnly (fun compiled options => own _ ⟨compiled, options, rfl⟩)
        quiet engine _ transport history message member
  | searchRaw record query =>
      rw [perform, run_conduct] at member
      exact searchRaw_sendsOnly (fun envelope => own _ ⟨envelope, rfl⟩) record query
        transport history message member
  | setExplain enabled =>
      exact own message (List.mem_singleton.mp member)
  | setProfile enabled =>
      exact own message (List.mem_singleton.mp member)
  | setFields | setRawResult | map =>
      cases member

end Engine

end Retrieval
