import Retrieval.Engine
import Retrieval.Proofs.Addresses
import Retrieval.Proofs.Courses
import Retrieval.Transport.Canned

namespace Retrieval

/-!
# Where a type mapping is pushed

The mapping of a record's type is pushed by one request.  The name of the type
is part of the path at which the mapping is set, and a dot in it opens a new
part: the mapping stands under the name of its type exactly if the name holds no
dot.  An update with a pending mapping begins with the same request and pushes
no mapping after it.
-/

namespace Indexable

variable {Record : Type} [Indexable Record]

/-- The document that puts a mapping under the name of its type. -/
def mappingDocument (index type : String) (mapping : Json) : Json :=
  .object [
    ("index", .string index),
    ("type", .string type),
    ("body", .object [(type, mapping)])]

/-- The envelope of a mapping is made, and holds it at the parts of the type's name. -/
theorem mappingEnvelope_of_named
    {record : Record}
    (typed : documentType record ≠ "")
    (named : (index record).name ≠ "")
    (mapping : Json) :
    mappingEnvelope record mapping =
      .ok { Envelope.ofType (index record).name (documentType record) with
        body := some (Json.nested (DottedPath.parts (documentType record)) mapping) } := by
  rw [mappingEnvelope, Envelope.forType_of_named typed named]
  simp only [bind, Except.bind]
  exact Envelope.set_body_of_none rfl _ _

/-- The mapping that is said is the one that is pushed. -/
theorem mapping?_of_said
    {record : Record}
    {declared : Json}
    (said : Json.Said (mapping record) declared) :
    mapping? record = some declared :=
  Json.filter_isBlank_eq_some_iff.mpr said

/-- Pushing a mapping is one request, whose refusal is passed on. -/
theorem updateMapping_sends
    {record : Record}
    {declared : Json}
    {envelope : Envelope}
    (said : Json.Said (mapping record) declared)
    (made : mappingEnvelope record declared = .ok envelope)
    (transport : Transport)
    (history : List Message) :
    Action.Sends transport history Refusal.cause (updateMapping record)
      [.request (.putMapping envelope)] := by
  have pushes :
      Action.Sends transport history Refusal.cause
        (Action.request (.putMapping envelope)) [.request (.putMapping envelope)] :=
    .request rfl (fun _ accepted => accepted) (fun _ refused => refused)
  have noticed :=
    pushes.andThen fun _ => .say (.mappingUpdated (documentType record) envelope.index)
  rw [updateMapping, mapping?_of_said said]
  simp only [made, Action.ofExcept_ok_bind]
  simpa using noticed

end Indexable

namespace Engine

variable {Record : Type} [Indexable Record]

/-- A message asks for a document to be written. -/
def WritesDocument (message : Message) : Prop :=
  ∃ envelope, message = .request (.index envelope)

/-- A record is written by requests that write documents, if at all. -/
theorem indexRecord_sendsOnly (record : Record) :
    Action.SendsOnly WritesDocument (indexRecord record) := by
  rw [indexRecord]
  split
  · exact .of_silent fun _ _ => rfl
  · refine .bind (.of_silent fun _ _ => rfl) fun envelope => ?_
    exact .request ⟨envelope, rfl⟩

/-- Doing something of a kind with every item of a list is of that kind. -/
theorem forEach_sendsOnly
    {allowed : Message → Prop}
    {act : Item → Action Unit}
    (each : ∀ item, Action.SendsOnly allowed (act item))
    (items : List Item) :
    Action.SendsOnly allowed (forEach act items) := by
  induction items with
  | nil =>
      exact .of_silent fun _ _ => rfl
  | cons first rest inductionHypothesis =>
      exact .bind (each first) fun _ => inductionHypothesis

/-- An update is the writing of its records, and the engine that this leaves. -/
theorem run_update
    (engine : Engine)
    (records : List Record)
    (transport : Transport)
    (history : List Message) :
    Dialogue.run transport history (engine.update records) =
      let ran := Action.run transport history (engine.writeRecords records)
      { value := (ran.value, engine.afterUpdate ran.value)
        messages := ran.messages
        notices := ran.notices } := by
  rw [update, Dialogue.run_bind_pure]
  rfl

/-- The first request of an update with a pending mapping pushes it, and no other does. -/
theorem run_update_of_pending
    {engine : Engine}
    (pending : engine.mappingPending = true)
    {record : Record}
    {course : List Message}
    {transport : Transport}
    {history : List Message}
    (pushes :
      Action.Sends transport history Refusal.cause (Indexable.updateMapping record) course)
    (others : List Record) :
    ∃ later,
      (Dialogue.run transport history (engine.update (record :: others))).messages =
          course ++ later ∧
        ∀ message ∈ later, WritesDocument message := by
  have pushed : engine.pushPending (record :: others) = Indexable.updateMapping record := by
    simp only [pushPending, pending]
  rw [run_update, writeRecords, pushed]
  cases outcome :
      (Action.run transport history (Indexable.updateMapping record)).value with
  | ok value =>
      rw [Action.run_bind_of_ok outcome]
      simp only [pushes.messages]
      exact ⟨_, rfl, forEach_sendsOnly indexRecord_sendsOnly _ transport _⟩
  | error cause =>
      rw [Action.run_bind_of_error outcome]
      simp only [pushes.messages]
      exact ⟨[], (List.append_nil course).symm, by simp⟩

end Engine

/--
For every addressable record with a mapping and every transport, the mapping is
pushed by exactly one request, at the parts of the type's name, and an update
with a pending mapping begins with that request and pushes no other.  The
mapping stands under the type's own name exactly if the name holds no dot.
-/
theorem Indexable.mapping_under_type_iff
    [Indexable Record]
    (record : Record)
    (declared : Json)
    (typed : Indexable.documentType record ≠ "")
    (named : (Indexable.index record).name ≠ "")
    (said : Json.Said (Indexable.mapping record) declared)
    (transport : Transport)
    (history : List Message) :
    ∃ envelope parts,
      (∀ part ∈ parts, '.' ∉ part.toList) ∧
      String.intercalate "." parts = Indexable.documentType record ∧
      envelope.toJson =
        .object [
          ("index", .string (Indexable.index record).name),
          ("type", .string (Indexable.documentType record)),
          ("body", Json.nested parts declared)] ∧
      (Action.run transport history (Indexable.updateMapping record)).messages =
        [.request (.putMapping envelope)] ∧
      (∀ (engine : Engine) (others : List Record),
        engine.mappingPending = true →
        ∃ later,
          (Dialogue.run transport history (engine.update (record :: others))).messages =
              .request (.putMapping envelope) :: later ∧
            ∀ message ∈ later, Engine.WritesDocument message) ∧
      (envelope.toJson =
          Indexable.mappingDocument (Indexable.index record).name
            (Indexable.documentType record) declared ↔
        '.' ∉ (Indexable.documentType record).toList) := by
  have made := Indexable.mappingEnvelope_of_named typed named declared
  have pushes := Indexable.updateMapping_sends said made transport history
  refine
    ⟨_, DottedPath.parts (Indexable.documentType record),
      fun _ member => DottedPath.dot_not_mem_parts member,
      DottedPath.intercalate_parts _, rfl, pushes.messages, ?_, ?_⟩
  · intro engine others pending
    exact Engine.run_update_of_pending pending pushes others
  · rw [← Json.nested_parts_eq_single_iff _ declared]
    simp [Envelope.toJson, Envelope.ofType, Indexable.mappingDocument, Json.single]

/-- A mapping that admits no other fields. -/
def closedMapping : Json :=
  Json.single "dynamic" (.boolean false)

theorem closedMapping_said : Json.Said (some closedMapping) closedMapping := by
  simp [Json.Said, closedMapping, Json.single]

/-- A record of a type whose name is one part. -/
def plainlyNamed : PlainRecord where
  key := .null
  documentType := "products"
  index := .named "shop"
  fields := []
  mapping := some closedMapping

/-- The type of a plainly named record has its mapping under its name. -/
theorem Indexable.mapping_under_plain_type :
    Indexable.documentType plainlyNamed ≠ "" ∧
      (Indexable.index plainlyNamed).name ≠ "" ∧
      Json.Said (Indexable.mapping plainlyNamed) closedMapping ∧
      ∃ envelope,
        (Action.run CannedTransport.initial.toTransport []
            (Indexable.updateMapping plainlyNamed)).messages =
          [.request (.putMapping envelope)] ∧
        envelope.toJson = Indexable.mappingDocument "shop" "products" closedMapping := by
  have typed : Indexable.documentType plainlyNamed ≠ "" := by
    decide
  have named : (Indexable.index plainlyNamed).name ≠ "" := by
    decide
  have said : Json.Said (Indexable.mapping plainlyNamed) closedMapping :=
    closedMapping_said
  obtain ⟨envelope, parts, _, _, _, messages, _, underType⟩ :=
    Indexable.mapping_under_type_iff plainlyNamed _ typed named said
      CannedTransport.initial.toTransport []
  exact ⟨typed, named, said, envelope, messages, underType.mpr (by decide)⟩

/-- A record of a type whose name has two parts. -/
def dottedlyNamed : PlainRecord :=
  { plainlyNamed with documentType := "shop.products" }

/-- The mapping of a type with a dotted name is not under that name. -/
theorem Indexable.dotted_type_mapping_elsewhere :
    ∃ envelope,
      (Action.run CannedTransport.initial.toTransport []
          (Indexable.updateMapping dottedlyNamed)).messages =
        [.request (.putMapping envelope)] ∧
      envelope.toJson =
        .object [
          ("index", .string "shop"),
          ("type", .string "shop.products"),
          ("body", .object [("shop", .object [("products", closedMapping)])])] ∧
      envelope.toJson ≠ Indexable.mappingDocument "shop" "shop.products" closedMapping := by
  have said : Json.Said (Indexable.mapping dottedlyNamed) closedMapping :=
    closedMapping_said
  have cutInTwo : DottedPath.parts "shop.products" = ["shop", "products"] := by
    decide
  have made :
      Indexable.mappingEnvelope dottedlyNamed closedMapping =
        .ok { Envelope.ofType "shop" "shop.products" with
          body := some (Json.nested ["shop", "products"] closedMapping) } := by
    rw [← cutInTwo]
    exact Indexable.mappingEnvelope_of_named (by decide) (by decide) _
  have pushes :=
    Indexable.updateMapping_sends said made CannedTransport.initial.toTransport []
  refine ⟨_, pushes.messages, rfl, ?_⟩
  simp [Envelope.toJson, Envelope.ofType, Indexable.mappingDocument, Json.single]

end Retrieval
