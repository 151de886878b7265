import Mathlib.Tactic.SplitIfs
import Retrieval.Json.Reader

namespace Retrieval

/-!
# Values of JSON texts

A JSON text has no words for infinity, so all numbers of a value that is read
from a text are finite.  A reader of nested values passes this on from the inner
values to the outer ones.
-/

/-- Every number of a value is finite, as all numbers of a JSON text are. -/
inductive Json.WellFormed : Json → Prop where
  | null :
      WellFormed .null
  | boolean (value : Bool) :
      WellFormed (.boolean value)
  | number
      {value : Number}
      (finite : value.isFinite = true) :
      WellFormed (.number value)
  | string (value : String) :
      WellFormed (.string value)
  | array
      {items : List Json}
      (each : ∀ item ∈ items, WellFormed item) :
      WellFormed (.array items)
  | object
      {members : Members}
      (each : ∀ member ∈ members, WellFormed member.2) :
      WellFormed (.object members)

namespace Json

attribute [simp] WellFormed.null WellFormed.boolean WellFormed.string

@[simp] theorem wellFormed_number_iff {value : Number} :
    (Json.number value).WellFormed ↔ value.isFinite = true :=
  ⟨fun | .number finite => finite, .number⟩

@[simp] theorem wellFormed_array_iff {items : List Json} :
    (Json.array items).WellFormed ↔ ∀ item ∈ items, item.WellFormed :=
  ⟨fun | .array each => each, .array⟩

@[simp] theorem wellFormed_object_iff {members : Members} :
    (Json.object members).WellFormed ↔ ∀ member ∈ members, member.2.WellFormed :=
  ⟨fun | .object each => each, .object⟩

end Json

namespace Members

theorem mem_foldl_insert
    {pairs : List (String × Json)}
    {members : Members}
    {member : String × Json}
    (inside :
      member ∈ pairs.foldl (fun members pair => insert pair.1 pair.2 members) members) :
    member ∈ members ∨ member ∈ pairs := by
  induction pairs generalizing members with
  | nil =>
      exact .inl inside
  | cons first rest inductionHypothesis =>
      rcases inductionHypothesis inside with before | later
      · rcases mem_insert before with new | held
        · exact .inr (List.mem_cons.mpr (.inl new))
        · exact .inl held
      · exact .inr (List.mem_cons_of_mem _ later)

/-- The members of an object are among the pairs that it was made from. -/
theorem mem_ofList
    {pairs : List (String × Json)}
    {member : String × Json}
    (inside : member ∈ ofList pairs) :
    member ∈ pairs := by
  rcases mem_foldl_insert inside with none | listed
  · cases none
  · exact listed

end Members

namespace Json.Reader

theorem numberTail_isFinite
    {negative : Bool}
    {input rest : List Char}
    {number : Number}
    (read : numberTail negative input = some (number, rest)) :
    number.isFinite = true := by
  simp only [numberTail, bind, Option.bind_eq_some_iff] at read
  obtain ⟨_, _, _, _, ⟨_, _⟩, _, made⟩ := read
  split_ifs at made with finite
  cases made
  exact finite

/-- What is read with some fuel is well-formed: a value, the items of an array and the members. -/
structure Sound (fuel : Nat) : Prop where
  value :
    ∀ input read rest,
      Reader.value fuel input = some (read, rest) →
      read.WellFormed
  items :
    ∀ input read rest,
      Reader.items fuel input = some (read, rest) →
      ∀ item ∈ read, item.WellFormed
  members :
    ∀ input read rest,
      Reader.members fuel input = some (read, rest) →
      ∀ member ∈ read, member.2.WellFormed

section Nested

variable {fuel : Nat} (inner : Sound fuel)

include inner

/-- A value is well-formed if the values inside it are. -/
theorem value_wellFormed
    {input rest : List Char}
    {read : Json}
    (result : Reader.value (fuel + 1) input = some (read, rest)) :
    read.WellFormed := by
  rw [value] at result
  -- The first character tells what kind of value follows, in the order of the reader.
  split at result
  · obtain ⟨_, _, made⟩ := Option.map_eq_some_iff.mp result
    cases made
    exact .string _
  · split at result
    · cases result
      simp
    · obtain ⟨_, listed, made⟩ := Option.map_eq_some_iff.mp result
      cases made
      exact .array (inner.items _ _ _ listed)
  · split at result
    · cases result
      simp
    · obtain ⟨_, listed, made⟩ := Option.map_eq_some_iff.mp result
      cases made
      exact .object fun member inside =>
        inner.members _ _ _ listed member (Members.mem_ofList inside)
  · obtain ⟨_, counted, made⟩ := Option.map_eq_some_iff.mp result
    cases made
    exact .number (numberTail_isFinite counted)
  · obtain ⟨_, _, made⟩ := Option.map_eq_some_iff.mp result
    cases made
    exact .boolean true
  · obtain ⟨_, _, made⟩ := Option.map_eq_some_iff.mp result
    cases made
    exact .boolean false
  · obtain ⟨_, _, made⟩ := Option.map_eq_some_iff.mp result
    cases made
    exact .null
  · obtain ⟨_, counted, made⟩ := Option.map_eq_some_iff.mp result
    cases made
    exact .number (numberTail_isFinite counted)

theorem items_wellFormed
    {input rest : List Char}
    {read : List Json}
    (result : Reader.items (fuel + 1) input = some (read, rest)) :
    ∀ item ∈ read, item.WellFormed := by
  rw [items] at result
  split at result
  · cases result
  · next first afterFirst isFirst =>
    have firstSound := inner.value _ _ _ isFirst
    split at result
    · obtain ⟨_, listed, made⟩ := Option.map_eq_some_iff.mp result
      cases made
      exact List.forall_mem_cons.mpr
        ⟨firstSound, inner.items _ _ _ listed⟩
    · cases result
      simpa using firstSound
    · cases result

theorem members_wellFormed
    {input rest : List Char}
    {read : Members}
    (result : Reader.members (fuel + 1) input = some (read, rest)) :
    ∀ member ∈ read, member.2.WellFormed := by
  rw [members] at result
  split at result
  · split at result
    · cases result
    · split at result
      · split at result
        · cases result
        · next held afterHeld isHeld =>
          have heldSound := inner.value _ _ _ isHeld
          split at result
          · obtain ⟨_, listed, made⟩ := Option.map_eq_some_iff.mp result
            cases made
            exact List.forall_mem_cons.mpr
              ⟨heldSound, inner.members _ _ _ listed⟩
          · cases result
            simpa using heldSound
          · cases result
      · cases result
  · cases result

end Nested

theorem sound (fuel : Nat) : Sound fuel := by
  induction fuel with
  | zero =>
      constructor <;> simp [value, items, members]
  | succ fuel inductionHypothesis =>
      constructor
      case value =>
        exact fun _ _ _ => value_wellFormed inductionHypothesis
      case items =>
        exact fun _ _ _ => items_wellFormed inductionHypothesis
      case members =>
        exact fun _ _ _ => members_wellFormed inductionHypothesis

end Json.Reader

/-- All values that are read from texts are well-formed. -/
theorem Json.ofText?_wellFormed
    {text : String}
    {value : Json}
    (read : ofText? text = some value) :
    value.WellFormed := by
  simp only [ofText?] at read
  split at read
  · next found rest result =>
    split_ifs at read
    cases read
    exact (Reader.sound _).value _ _ _ result
  · cases read

end Retrieval
