import Retrieval.Proofs.NestedWrites
import Retrieval.Proofs.Protection

namespace Retrieval

/-!
# Writes to the body of an envelope

The path to a place in the body begins with the word `body` and goes on with the
keys that lead to the place.  A write there that succeeds changes this place, and
what leads to it, and nothing else in the envelope; made twice, it is the second
write alone.
-/

namespace Envelope

/-- The text of the path to a place in the body. -/
def bodyPath (keys : List String) : String :=
  String.intercalate "." ("body" :: keys)

/-- What the body holds at a path of keys. -/
def bodyAt? (envelope : Envelope) (path : List String) : Option Json :=
  envelope.body.bind (Json.at? path)

/-- The body that a write begins with; an empty one if none has been written yet. -/
def writtenBody (envelope : Envelope) : Json :=
  envelope.body.getD Json.emptyObject

/-- The path of a text leads into the body exactly if the text names the keys on the way. -/
theorem ofText_eq_body_iff
    {path : String}
    {keys : List String} :
    DottedPath.ofText path = { head := "body", rest := keys } ↔
      (∀ key ∈ keys, '.' ∉ key.toList) ∧ path = bodyPath keys := by
  have sameParts :
      DottedPath.ofText path = { head := "body", rest := keys } ↔
        DottedPath.parts path = "body" :: keys := by
    rw [DottedPath.parts, DottedPath.mk.injEq, List.cons.injEq]
  rw [sameParts]
  constructor
  · intro shape
    refine ⟨fun key member => ?_, ?_⟩
    · exact DottedPath.dot_not_mem_parts (shape ▸ List.mem_cons_of_mem "body" member)
    · rw [bodyPath, ← shape, DottedPath.intercalate_parts]
  · rintro ⟨dotFree, rfl⟩
    have allFree : ∀ part ∈ "body" :: keys, '.' ∉ part.toList :=
      List.forall_mem_cons.mpr ⟨by decide, dotFree⟩
    exact DottedPath.parts_intercalate allFree

/-- Below the body itself an absent body and an empty one hold the same. -/
theorem at?_writtenBody
    (envelope : Envelope)
    {path : List String}
    (longer : path ≠ []) :
    envelope.writtenBody.at? path = envelope.bodyAt? path := by
  rw [writtenBody, bodyAt?]
  cases envelope.body with
  | some body =>
      rfl
  | none =>
      cases path with
      | nil =>
          exact absurd rfl longer
      | cons key rest =>
          rfl

/-- A write to the body puts its value at the place, unless something is in the way. -/
theorem setAt_body
    (envelope : Envelope)
    (keys : List String)
    (value : Json) :
    envelope.setAt { head := "body", rest := keys } value =
      match envelope.writtenBody.obstacle? keys with
      | some fault => .error (.invalidArgument fault)
      | none => .ok { envelope with body := some (envelope.writtenBody.put keys value) } := by
  have nested := setNested_eq envelope.writtenBody keys value
  rw [writtenBody] at nested ⊢
  simp only [setAt, Scope.body_not_mem_protectedKeys, nested]
  cases (envelope.body.getD Json.emptyObject).obstacle? keys with
  | some fault =>
      rfl
  | none =>
      rfl

theorem setAt_body_eq_ok_iff
    {envelope after : Envelope}
    {keys : List String}
    {value : Json} :
    envelope.setAt { head := "body", rest := keys } value = .ok after ↔
      envelope.writtenBody.OpenTo keys ∧
        after = { envelope with body := some (envelope.writtenBody.put keys value) } := by
  rw [setAt_body, ← Json.obstacle?_eq_none_iff]
  cases envelope.writtenBody.obstacle? keys with
  | some fault =>
      simp
  | none =>
      simp [eq_comm]

/-- A write to the body that is made twice is the second write alone, also if it fails. -/
theorem setAt_body_twice
    (envelope : Envelope)
    (keys : List String)
    (first second : Json) :
    (do
      let once ← envelope.setAt { head := "body", rest := keys } first
      once.setAt { head := "body", rest := keys } second) =
      envelope.setAt { head := "body", rest := keys } second := by
  rw [setAt_body, setAt_body]
  cases envelope.writtenBody.obstacle? keys with
  | some fault =>
      rfl
  | none =>
      have free : (envelope.writtenBody.put keys first).obstacle? keys = none :=
        Json.obstacle?_eq_none_iff.mpr (Json.openTo_put_self _ keys first)
      have replaced := Json.put_put envelope.writtenBody keys first second
      simp only [bind, Except.bind, setAt_body, writtenBody, Option.getD_some] at free replaced ⊢
      rw [free, replaced]

/--
For every envelope and every path into its body, with any keys, empty ones
included: after a write that succeeds, what leads on from the path leads into the
value that was written, on the way to the path there are objects, every other
place of the body holds what it held, or nothing as before, and the address is
the same.  A write that is followed by a second one at the same path comes to
the second one alone, which succeeds or fails as it would have without the first.
-/
theorem write_changes_its_place
    (envelope : Envelope)
    (keys : List String)
    (dotFree : ∀ key ∈ keys, '.' ∉ key.toList)
    (value : Json) :
    (∀ after,
      envelope.set (bodyPath keys) value = .ok after →
      (∀ more, after.bodyAt? (keys ++ more) = value.at? more) ∧
        (∀ before,
          before <+: keys →
          before ≠ keys →
          ∃ members, after.bodyAt? before = some (.object members)) ∧
        (∀ other,
          ¬ keys <+: other →
          ¬ other <+: keys →
          after.bodyAt? other = envelope.bodyAt? other) ∧
        after.index = envelope.index ∧
        after.type = envelope.type ∧
        after.id = envelope.id) ∧
      ∀ second,
        (do
          let once ← envelope.set (bodyPath keys) value
          once.set (bodyPath keys) second) =
          envelope.set (bodyPath keys) second := by
  have inBody : DottedPath.ofText (bodyPath keys) = { head := "body", rest := keys } :=
    ofText_eq_body_iff.mpr ⟨dotFree, rfl⟩
  constructor
  · intro after written
    rw [set, inBody, setAt_body_eq_ok_iff] at written
    obtain ⟨_, rfl⟩ := written
    refine ⟨?_, ?_, ?_, rfl, rfl, rfl⟩
    · intro more
      exact Json.at?_put_append _ keys more value
    · intro before onTheWay shorter
      exact Json.at?_put_of_prefix _ onTheWay shorter value
    · intro other notBelow notAbove
      have parting : Json.Part keys other := Json.part_iff.mpr ⟨notBelow, notAbove⟩
      rw [← envelope.at?_writtenBody parting.ne_nil]
      exact Json.at?_put_of_part parting _ value
  · intro second
    simp only [set, inBody]
    exact envelope.setAt_body_twice keys value second

/-- An envelope for an index with one setting in its body, and `null` beside the settings. -/
def partlyWritten : Envelope :=
  { ofIndex "shop" with
    body := some (.object [
      ("mappings", .null),
      ("settings", .object [("replicas", .ofUInt64 1)])]) }

/-- A second setting is written beside the first one, twice as well as once. -/
theorem setting_written_beside_another :
    let keys := ["settings", "refresh"]
    let after : Envelope :=
      { partlyWritten with
        body := some (.object [
          ("mappings", .null),
          ("settings", .object [("refresh", .string "1s"), ("replicas", .ofUInt64 1)])]) }
    (∀ key ∈ keys, '.' ∉ key.toList) ∧
      bodyPath keys = "body.settings.refresh" ∧
      partlyWritten.set (bodyPath keys) (.string "1s") = .ok after ∧
      after.bodyAt? keys = some (.string "1s") ∧
      (∃ members, after.bodyAt? ["settings"] = some (.object members)) ∧
      after.bodyAt? ["settings", "replicas"] = some (.ofUInt64 1) ∧
      after.bodyAt? ["mappings", "products"] = none ∧
      after.index = "shop" ∧
      after.set (bodyPath keys) .null = partlyWritten.set (bodyPath keys) .null := by
  intro keys after
  have dotFree : ∀ key ∈ keys, '.' ∉ key.toList := by
    decide
  have succeeds : partlyWritten.set (bodyPath keys) (.string "1s") = .ok after := by
    have isOpen : partlyWritten.writtenBody.OpenTo keys :=
      Json.obstacle?_eq_none_iff.mp rfl
    rw [set, ofText_eq_body_iff.mpr ⟨dotFree, rfl⟩, setAt_body_eq_ok_iff]
    exact ⟨isOpen, by decide⟩
  obtain ⟨written, again⟩ :=
    write_changes_its_place partlyWritten keys dotFree (.string "1s")
  obtain ⟨found, onTheWay, beside, sameIndex, _⟩ := written after succeeds
  refine ⟨dotFree, by decide, succeeds, ?_, ?_, ?_, ?_, sameIndex, ?_⟩
  · exact found []
  · exact onTheWay ["settings"] (by decide) (by decide)
  · exact beside ["settings", "replicas"] (by decide) (by decide)
  · exact beside ["mappings", "products"] (by decide) (by decide)
  · have replaced := again .null
    rw [succeeds] at replaced
    exact replaced

end Envelope

end Retrieval
