import Mathlib.Data.List.Forall2
import Retrieval.Json.Decode

namespace Retrieval

/-!
# Reading the fields of a record

A record is read from the members of an object if each of its fields is: the
faults are compared only to choose the one that is reported.  A field that may
be absent is read from its member, or takes its default; which values a decoder
reads depends on their kind alone.  A field that was written is read as it was,
but for `null`, which stands for an absent value.
-/

namespace Members

/-- A field is read from its member, or takes its default if there is none. -/
inductive Reads
    (members : Members)
    (key : String)
    (absent : α)
    (decode : Json → Decoded α) :
    α → Prop where
  | held
      {found : Json}
      {value : α}
      (present : find? key members = some found)
      (decoded : decode found = .ok value) :
      Reads members key absent decode value
  | default
      (lacking : find? key members = none) :
      Reads members key absent decode absent

/-- A member is absent, or its value is of a given kind. -/
def Admits (members : Members) (key : String) (kind : Json → Prop) : Prop :=
  ∀ found, find? key members = some found → kind found

variable {members : Members} {key : String} {absent : α} {decode : Json → Decoded α}

theorem Admits.of_lacking
    {kind : Json → Prop}
    (lacking : find? key members = none) :
    members.Admits key kind := by
  intro found present
  rw [lacking] at present
  cases present

/-- A field is read if its member is absent or of the kind that its decoder reads there. -/
theorem exists_reads_iff_admits_of_held
    {kind : Json → Prop}
    (decodes :
      ∀ found,
        find? key members = some found →
        ((∃ value, decode found = .ok value) ↔ kind found)) :
    (∃ value, members.Reads key absent decode value) ↔ members.Admits key kind := by
  constructor
  · rintro ⟨value, reads⟩ found present
    rw [← decodes found present]
    cases reads with
    | held other decoded =>
        rw [present] at other
        cases other
        exact ⟨value, decoded⟩
    | default lacking =>
        rw [present] at lacking
        cases lacking
  · intro admits
    cases asked : find? key members with
    | none =>
        exact ⟨absent, .default asked⟩
    | some found =>
        obtain ⟨value, decoded⟩ := (decodes found asked).mpr (admits found asked)
        exact ⟨value, .held asked decoded⟩

/-- A field is read if its member is absent or of the kind that its decoder reads. -/
theorem exists_reads_iff_admits
    {kind : Json → Prop}
    (decodes : ∀ found, (∃ value, decode found = .ok value) ↔ kind found) :
    (∃ value, members.Reads key absent decode value) ↔ members.Admits key kind :=
  exists_reads_iff_admits_of_held fun found _ => decodes found

theorem Reads.admits
    {kind : Json → Prop}
    {value : α}
    (reads : members.Reads key absent decode value)
    (decodes : ∀ found, (∃ value, decode found = .ok value) ↔ kind found) :
    members.Admits key kind :=
  (exists_reads_iff_admits decodes).mp ⟨value, reads⟩

theorem Admits.reads
    {kind : Json → Prop}
    (admits : members.Admits key kind)
    (decodes : ∀ found, (∃ value, decode found = .ok value) ↔ kind found) :
    ∃ value, members.Reads key absent decode value :=
  (exists_reads_iff_admits decodes).mpr admits

end Members

namespace Decode

variable {members : Members}

theorem bind_eq_ok_iff
    {read : Decoded α}
    {next : α → Decoded β}
    {result : β} :
    read >>= next = .ok result ↔ ∃ value, read = .ok value ∧ next value = .ok result := by
  cases read with
  | ok value =>
      simp [bind, Except.bind]
  | error fault =>
      simp [bind, Except.bind]

theorem leastFault_eq_none_iff {faults : List Fault} :
    leastFault faults = none ↔ faults = [] := by
  cases faults with
  | nil =>
      simp [leastFault]
  | cons first rest =>
      simp only [leastFault]
      split
      · simp
      · split <;> simp

namespace Source

theorem check_members_eq_ok_iff {width : Nat} {faults : List Fault} {done : Unit} :
    (Source.members members).check width faults = .ok done ↔ faults = [] := by
  rw [← leastFault_eq_none_iff, check]
  split
  · next found reported =>
    simp [reported]
  · next reported =>
    simp [reported]

theorem fault_eq_nil_iff
    {source : Source}
    {name : String}
    {position : Nat}
    {read : Decoded α} :
    source.fault name position read = [] ↔ ∃ value, read = .ok value := by
  cases read with
  | ok value =>
      simp [fault]
  | error error =>
      simp [fault]

theorem optional_members_eq_ok_iff
    {key : String}
    {position : Nat}
    {absent value : α}
    {decode : Json → Decoded α} :
    (Source.members members).optional key position absent decode = .ok value ↔
      members.Reads key absent decode value := by
  simp only [optional, field?]
  constructor
  · intro read
    split at read
    · next found present =>
      exact .held present read
    · next lacking =>
      cases read
      exact .default lacking
  · intro reads
    cases reads with
    | held present decoded =>
        rw [present]
        exact decoded
    | default lacking =>
        rw [lacking]

theorem required_members_eq_ok_iff
    {record key : String}
    {width position : Nat}
    {value : α}
    {decode : Json → Decoded α} :
    (Source.members members).required record width key position decode = .ok value ↔
      ∃ found, Members.find? key members = some found ∧ decode found = .ok value := by
  simp only [required, field?]
  cases Members.find? key members with
  | none =>
      simp
  | some found =>
      simp

end Source

theorem exists_items_iff
    {decode : Json → Decoded α}
    {held : List Json} :
    (∃ values, items decode held = .ok values) ↔
      ∀ found ∈ held, ∃ value, decode found = .ok value := by
  induction held with
  | nil =>
      simp [items]
  | cons first rest inductionHypothesis =>
      rw [List.forall_mem_cons, ← inductionHypothesis]
      simp only [items, bind_eq_ok_iff]
      constructor
      · rintro ⟨_, value, decoded, others, decodedRest, _⟩
        exact ⟨⟨value, decoded⟩, others, decodedRest⟩
      · rintro ⟨⟨value, decoded⟩, others, decodedRest⟩
        exact ⟨value :: others, value, decoded, others, decodedRest, rfl⟩

theorem items_eq_ok_iff
    {decode : Json → Decoded α}
    {held : List Json}
    {values : List α} :
    items decode held = .ok values ↔
      List.Forall₂ (fun found value => decode found = .ok value) held values := by
  induction held generalizing values with
  | nil =>
      simp [items, eq_comm]
  | cons first rest inductionHypothesis =>
      simp only [items, bind_eq_ok_iff, inductionHypothesis, List.forall₂_cons_left_iff]
      constructor
      · rintro ⟨value, decoded, others, decodedRest, made⟩
        cases made
        exact ⟨value, others, decoded, decodedRest, rfl⟩
      · rintro ⟨value, others, decoded, decodedRest, rfl⟩
        exact ⟨value, decoded, others, decodedRest, rfl⟩

theorem list_eq_ok_iff
    {decode : Json → Decoded α}
    {value : Json}
    {values : List α} :
    list decode value = .ok values ↔
      ∃ held,
        value = .array held ∧
          List.Forall₂ (fun found value => decode found = .ok value) held values := by
  cases value with
  | array held =>
      simp [list, items_eq_ok_iff]
  | _ =>
      simp [list]

/-- A value that may be null is read as absent, or as its decoder reads it. -/
theorem nullable_eq_ok_iff
    {decode : Json → Decoded α}
    {value : Json}
    {read : Option α} :
    nullable decode value = .ok read ↔
      value = .null ∧ read = none ∨
        value ≠ .null ∧ ∃ held, decode value = .ok held ∧ read = some held := by
  cases value with
  | null =>
      simp [nullable, eq_comm]
  | _ =>
      simp only [nullable]
      cases decode _ with
      | ok held =>
          simp [Except.map, eq_comm]
      | error fault =>
          simp [Except.map]

end Decode

namespace Json

/-- A value is an integer of sixty-four bits that is not negative. -/
def IsUnsigned (value : Json) : Prop :=
  ∃ held, value = .number (.natural held)

/-- A value is a truth value. -/
def IsBoolean (value : Json) : Prop :=
  ∃ held, value = .boolean held

/-- A value is a number of any kind. -/
def IsNumber (value : Json) : Prop :=
  ∃ held, value = .number held

/-- A value is a string. -/
def IsString (value : Json) : Prop :=
  ∃ held, value = .string held

/-- A value is an object, whatever its members are. -/
def IsObject (value : Json) : Prop :=
  ∃ held, value = .object held

/-- An object whose members are of a kind. -/
def IsObjectOf (kind : Members → Prop) (value : Json) : Prop :=
  ∃ members, value = .object members ∧ kind members

/-- An array whose items are of a kind. -/
def IsArrayOf (kind : Json → Prop) (value : Json) : Prop :=
  ∃ items, value = .array items ∧ ∀ item ∈ items, kind item

@[simp] theorem isObjectOf_object_iff
    {kind : Members → Prop}
    {members : Members} :
    IsObjectOf kind (.object members) ↔ kind members := by
  simp [IsObjectOf]

@[simp] theorem isArrayOf_array_iff
    {kind : Json → Prop}
    {items : List Json} :
    IsArrayOf kind (.array items) ↔ ∀ item ∈ items, kind item := by
  simp [IsArrayOf]

/-- A value of a kind that may be null. -/
def OrNull (kind : Json → Prop) (value : Json) : Prop :=
  value = .null ∨ kind value

end Json

namespace Decode

variable {value : Json}

theorem unsigned_eq_ok_iff
    {expected : Expectation}
    {held : UInt64} :
    unsigned expected value = .ok held ↔ value = Json.ofUInt64 held := by
  cases value with
  | number given =>
      cases given <;> simp [unsigned, Json.ofUInt64]
  | _ =>
      simp [unsigned, Json.ofUInt64]

theorem unsigned_reads_iff {expected : Expectation} :
    (∃ read, unsigned expected value = .ok read) ↔ value.IsUnsigned := by
  cases value with
  | number held =>
      cases held <;> simp [unsigned, Json.IsUnsigned]
  | _ =>
      simp [unsigned, Json.IsUnsigned]

theorem boolean_reads_iff :
    (∃ read, boolean value = .ok read) ↔ value.IsBoolean := by
  cases value <;> simp [boolean, Json.IsBoolean]

theorem float_reads_iff :
    (∃ read, float value = .ok read) ↔ value.IsNumber := by
  cases value <;> simp [float, Json.IsNumber]

theorem string_reads_iff :
    (∃ read, string value = .ok read) ↔ value.IsString := by
  cases value <;> simp [string, Json.IsString]

theorem members_eq_ok_iff {held : Members} :
    members value = .ok held ↔ value = .object held := by
  cases value <;> simp [members]

theorem members_reads_iff :
    (∃ read, members value = .ok read) ↔ value.IsObject := by
  cases value <;> simp [members, Json.IsObject]

theorem nullable_reads_iff
    {decode : Json → Decoded α}
    {kind : Json → Prop}
    (reads : (∃ read, decode value = .ok read) ↔ kind value) :
    (∃ read, nullable decode value = .ok read) ↔ value.OrNull kind := by
  rw [Json.OrNull, ← reads]
  constructor
  · rintro ⟨read, decoded⟩
    rcases nullable_eq_ok_iff.mp decoded with ⟨isNull, _⟩ | ⟨_, held, decodedHeld, _⟩
    · exact .inl isNull
    · exact .inr ⟨held, decodedHeld⟩
  · intro kinds
    by_cases isNull : value = .null
    · exact ⟨none, nullable_eq_ok_iff.mpr (.inl ⟨isNull, rfl⟩)⟩
    · obtain ⟨held, decoded⟩ := kinds.resolve_left isNull
      exact ⟨some held, nullable_eq_ok_iff.mpr (.inr ⟨isNull, held, decoded, rfl⟩)⟩

/-- Whatever an optional member holds can be kept as it is. -/
theorem exists_reads_anything (members : Members) (key : String) :
    ∃ held, members.Reads key none (nullable anything) held := by
  have decodes (found : Json) :
      (∃ read, nullable anything found = .ok read) ↔ found.OrNull fun _ => True :=
    nullable_reads_iff (by simp [anything])
  rw [Members.exists_reads_iff_admits decodes]
  intro found present
  exact .inr trivial

end Decode

/-! What is read of the fields that are written. -/

/-- An optional value, where `null` stands for an absent one. -/
def Json.unlessNull : Option Json → Option Json
  | some .null => none
  | held => held

theorem Json.unlessNull_eq_self_iff {held : Option Json} :
    unlessNull held = held ↔ held ≠ some .null := by
  cases held with
  | none =>
      simp [unlessNull]
  | some value =>
      cases value <;> simp [unlessNull]

/-- An optional value is read as it was written, if its decoder tells it from `null`. -/
theorem Decode.nullable_ofOption
    {decode : Json → Decoded α}
    {write : α → Json}
    {value : Option α}
    (speaks : ∀ held, write held ≠ .null)
    (reads : ∀ held, decode (write held) = .ok held) :
    nullable decode (Json.ofOption (value.map write)) = .ok value := by
  cases value with
  | none =>
      rfl
  | some held =>
      exact nullable_eq_ok_iff.mpr (.inr ⟨speaks held, held, reads held, rfl⟩)

theorem Decode.items_map
    {decode : Json → Decoded β}
    {write : α → Json}
    {kept : α → β}
    (reads : ∀ value, decode (write value) = .ok (kept value))
    (values : List α) :
    items decode (values.map write) = .ok (values.map kept) := by
  rw [items_eq_ok_iff, List.forall₂_map_left_iff, List.forall₂_map_right_iff, List.forall₂_same]
  exact fun value _ => reads value

namespace Members

variable {members : Members} {key : String}

/-- What is held as it is was written as it is, or was `null`. -/
theorem reads_anything
    {held : Option Json}
    (present : find? key members = held) :
    members.Reads key none (Decode.nullable Decode.anything) (Json.unlessNull held) := by
  cases held with
  | none =>
      exact .default present
  | some value =>
      refine .held present ?_
      cases value <;> rfl

/-- A member that is left out if it is absent is read as it was written. -/
theorem reads_written
    {decode : Json → Decoded (Option α)}
    {write : α → Json}
    {value : Option α}
    (present : find? key members = value.map write)
    (reads : ∀ held, decode (write held) = .ok (some held)) :
    members.Reads key none decode value := by
  cases value with
  | none =>
      exact .default present
  | some held =>
      exact .held present (reads held)

end Members

end Retrieval
