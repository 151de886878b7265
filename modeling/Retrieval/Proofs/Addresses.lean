import Retrieval.Proofs.Paths

namespace Retrieval

/-!
# Addresses

An index has an address if it has a name, and a record has one if its type has a
name too.  The envelopes that are made for them hold the address and nothing
else.  For a record without an address no envelope is made, and what it lacks is
reported, its type first.
-/

namespace Indexable

variable {Record : Type} [Indexable Record]

/-- What a record lacks for an address, if anything; the type is looked at before the index. -/
def addressFault? (record : Record) : Option SetupFault :=
  if documentType record = "" then
    some (.untypedRecord (typeName Record))
  else if (index record).name = "" then
    some .unnamedIndex
  else
    none

theorem addressFault?_eq_none_iff {record : Record} :
    addressFault? record = none ↔
      documentType record ≠ "" ∧ (index record).name ≠ "" := by
  by_cases untyped : documentType record = ""
  · simp [addressFault?, untyped]
  · by_cases unnamed : (index record).name = ""
    · simp [addressFault?, untyped, unnamed]
    · simp [addressFault?, untyped, unnamed]

/-- What comes of making an envelope for a record: the envelope, or what the record lacks. -/
def addressed (record : Record) (envelope : Envelope) : Except Error Envelope :=
  match addressFault? record with
  | some fault => .error (.configuration fault)
  | none => .ok envelope

theorem addressed_eq_ok_iff
    {record : Record}
    {envelope made : Envelope} :
    addressed record envelope = .ok made ↔ addressFault? record = none ∧ envelope = made := by
  cases lacking : addressFault? record with
  | some fault =>
      simp [addressed, lacking]
  | none =>
      simp [addressed, lacking]

/-- An envelope for a record that is made is gone on with; one that is not made stops there. -/
theorem addressed_bind
    {record : Record}
    {envelope after : Envelope}
    {next : Envelope → Except Error Envelope}
    (made : next envelope = .ok after) :
    addressed record envelope >>= next = addressed record after := by
  cases lacking : addressFault? record with
  | some fault =>
      simp [addressed, lacking, bind, Except.bind]
  | none =>
      simp [addressed, lacking, made, bind, Except.bind]

end Indexable

namespace Envelope

/-- The envelope for an index, without a body. -/
def ofIndex (name : String) : Envelope where
  scope := .index
  index := name
  type := none
  id := none
  body := none

/-- The envelope for a document type, without a body. -/
def ofType (name type : String) : Envelope where
  scope := .type
  index := name
  type := some type
  id := none
  body := none

/-- The envelope for a document, without a body. -/
def ofDocument (name type : String) (key : Json) : Envelope where
  scope := .document
  index := name
  type := some type
  id := some key
  body := none

/-- An index with a name can be addressed. -/
theorem forIndex_of_named
    {definition : IndexDefinition}
    (named : definition.name ≠ "") :
    forIndex definition = .ok (ofIndex definition.name) := by
  simp [forIndex, named, ofIndex]

/-- An index without a name cannot be addressed. -/
theorem forIndex_of_unnamed
    {definition : IndexDefinition}
    (unnamed : definition.name = "") :
    forIndex definition = .error (.configuration .unnamedIndex) := by
  simp [forIndex, unnamed]

theorem forIndex_eq_ok_iff
    {definition : IndexDefinition}
    {envelope : Envelope} :
    forIndex definition = .ok envelope ↔
      definition.name ≠ "" ∧ ofIndex definition.name = envelope := by
  by_cases unnamed : definition.name = ""
  · simp [forIndex_of_unnamed unnamed, unnamed]
  · simp [forIndex_of_named unnamed, unnamed]

/-- A record with a type in an index with a name can be addressed. -/
theorem forType_of_named
    [Indexable Record]
    {record : Record}
    (typed : Indexable.documentType record ≠ "")
    (named : (Indexable.index record).name ≠ "") :
    forType record =
      .ok (ofType (Indexable.index record).name (Indexable.documentType record)) := by
  simp [forType, typed, forIndex_of_named named, ofIndex, ofType, bind, Except.bind, pure,
    Except.pure]

section

variable {Record : Type} [Indexable Record] (record : Record)

/-- An envelope for the type of a record is made unless the record lacks an address. -/
theorem forType_eq :
    forType record =
      Indexable.addressed record
        (ofType (Indexable.index record).name (Indexable.documentType record)) := by
  by_cases untyped : Indexable.documentType record = ""
  · simp [forType, Indexable.addressed, Indexable.addressFault?, untyped]
  · by_cases unnamed : (Indexable.index record).name = ""
    · simp [forType, Indexable.addressed, Indexable.addressFault?, untyped, unnamed,
        forIndex_of_unnamed unnamed, bind, Except.bind]
    · rw [forType_of_named untyped unnamed]
      simp [Indexable.addressed, Indexable.addressFault?, untyped, unnamed]

/-- The envelope for the document of a record holds its key beside the address of its type. -/
theorem forDocument_eq :
    forDocument record =
      Indexable.addressed record
        (ofDocument (Indexable.index record).name (Indexable.documentType record)
          (Indexable.key record)) := by
  rw [forDocument, forType_eq]
  exact Indexable.addressed_bind rfl

variable {record} {envelope : Envelope}

theorem forType_eq_ok_iff :
    forType record = .ok envelope ↔
      Indexable.addressFault? record = none ∧
        ofType (Indexable.index record).name (Indexable.documentType record) = envelope := by
  rw [forType_eq, Indexable.addressed_eq_ok_iff]

theorem forDocument_eq_ok_iff :
    forDocument record = .ok envelope ↔
      Indexable.addressFault? record = none ∧
        ofDocument (Indexable.index record).name (Indexable.documentType record)
          (Indexable.key record) = envelope := by
  rw [forDocument_eq, Indexable.addressed_eq_ok_iff]

/-- The identifier in the envelope for the document of a record is the key of the record. -/
theorem id_of_forDocument (made : forDocument record = .ok envelope) :
    envelope.toJson.member? "id" = some (Indexable.key record) := by
  obtain ⟨_, rfl⟩ := forDocument_eq_ok_iff.mp made
  rfl

end

end Envelope

end Retrieval
