import Retrieval.Proofs.BodyWrites

namespace Retrieval

/-!
# Which writes to an envelope succeed

A write to the type needs an envelope for an index and a string, and a write to
the identifier any envelope but one for a document.  A write to the body needs an
open way, whatever it writes.  Every other write fails, because of what was
passed for its path or its value.
-/

namespace Envelope

/-- How an envelope of each scope is made. -/
inductive Made : Scope → Envelope → Prop where
  | index
      {definition : IndexDefinition}
      {envelope : Envelope}
      (made : forIndex definition = .ok envelope) :
      Made .index envelope
  | type
      {Record : Type}
      [Indexable Record]
      {record : Record}
      {envelope : Envelope}
      (made : forType record = .ok envelope) :
      Made .type envelope
  | document
      {Record : Type}
      [Indexable Record]
      {record : Record}
      {envelope : Envelope}
      (made : forDocument record = .ok envelope) :
      Made .document envelope

/-- The scope of an envelope tells how it was made. -/
theorem Made.scope_eq
    {scope : Scope}
    {envelope : Envelope}
    (isMade : Made scope envelope) :
    envelope.scope = scope := by
  cases isMade with
  | index made =>
      obtain ⟨_, rfl⟩ := forIndex_eq_ok_iff.mp made
      rfl
  | type made =>
      obtain ⟨_, rfl⟩ := forType_eq_ok_iff.mp made
      rfl
  | document made =>
      obtain ⟨_, rfl⟩ := forDocument_eq_ok_iff.mp made
      rfl

/-- What an envelope was made for stays, whatever is written to it. -/
theorem Made.scope_attemptAll
    {scope : Scope}
    {envelope : Envelope}
    (isMade : Made scope envelope)
    (writes : List (String × Json)) :
    (envelope.attemptAll writes).scope = scope :=
  (envelope.keeps_attemptAll writes).scope.trans isMade.scope_eq

theorem Scope.type_not_mem_protectedKeys_iff {scope : Scope} :
    "type" ∉ scope.protectedKeys ↔ scope = .index := by
  cases scope <;> decide

theorem Scope.id_not_mem_protectedKeys_iff {scope : Scope} :
    "id" ∉ scope.protectedKeys ↔ scope ≠ .document := by
  cases scope <;> decide

/-- An envelope allows a value to be written at a path. -/
inductive Allows (envelope : Envelope) (value : Json) : DottedPath → Prop where
  | type
      {name : String}
      (free : envelope.scope = .index)
      (text : value = .string name) :
      Allows envelope value { head := "type", rest := [] }
  | id
      (free : envelope.scope ≠ .document) :
      Allows envelope value { head := "id", rest := [] }
  | body
      {keys : List String}
      (isOpen : envelope.writtenBody.OpenTo keys) :
      Allows envelope value { head := "body", rest := keys }

/-- A write succeeds exactly if it is allowed. -/
theorem exists_setAt_iff_allows
    {envelope : Envelope}
    {path : DottedPath}
    {value : Json} :
    (∃ after, envelope.setAt path value = .ok after) ↔ envelope.Allows value path := by
  constructor
  · rintro ⟨after, written⟩
    cases setAt_eq_ok_iff.mp written with
    | type free named text =>
        rw [named]
        exact .type (Scope.type_not_mem_protectedKeys_iff.mp free) text
    | id free named =>
        rw [named]
        exact .id (Scope.id_not_mem_protectedKeys_iff.mp free)
    | body named nested =>
        obtain ⟨head, keys⟩ := path
        cases named
        exact .body (setAt_body_eq_ok_iff.mp written).1
  · intro allowed
    cases allowed with
    | type free text =>
        exact ⟨_, setAt_eq_ok_iff.mpr
          (.type (Scope.type_not_mem_protectedKeys_iff.mpr free) rfl text)⟩
    | id free =>
        exact ⟨_, setAt_eq_ok_iff.mpr (.id (Scope.id_not_mem_protectedKeys_iff.mpr free) rfl)⟩
    | body isOpen =>
        exact ⟨_, setAt_body_eq_ok_iff.mpr ⟨isOpen, rfl⟩⟩

/-- A value that is no string is refused for what was passed. -/
theorem expectString_error
    {key : String}
    {value : Json}
    {cause : Error}
    (refused : expectString key value = .error cause) :
    ∃ fault, cause = .invalidArgument fault := by
  cases value with
  | string text =>
      cases refused
  | _ =>
      cases refused
      exact ⟨_, rfl⟩

/-- A write that fails is refused for what was passed. -/
theorem setAt_error
    {envelope : Envelope}
    {path : DottedPath}
    {value : Json}
    {cause : Error}
    (refused : envelope.setAt path value = .error cause) :
    ∃ fault, cause = .invalidArgument fault := by
  obtain ⟨head, keys⟩ := path
  by_cases inBody : head = "body"
  · subst inBody
    rw [setAt_body] at refused
    split at refused <;> cases refused
    exact ⟨_, rfl⟩
  · simp only [setAt, inBody, ↓reduceIte] at refused
    split_ifs at refused with protects onward isIndex isType isId
    · cases refused
      exact ⟨_, rfl⟩
    · cases refused
      exact ⟨_, rfl⟩
    · exact absurd (isIndex ▸ envelope.scope.index_mem_protectedKeys) protects
    · cases text : expectString head value with
      | ok name =>
          rw [text] at refused
          cases refused
      | error fault =>
          rw [text] at refused
          cases refused
          exact expectString_error text
    · cases refused
      exact ⟨_, rfl⟩

/-- A path that is one name is the text of the name. -/
theorem ofText_eq_name_iff
    {path name : String}
    (dotFree : '.' ∉ name.toList) :
    DottedPath.ofText path = { head := name, rest := [] } ↔ path = name := by
  constructor
  · intro shape
    rw [← DottedPath.intercalate_parts path, DottedPath.parts, shape,
      String.intercalate_singleton]
  · rintro rfl
    exact DottedPath.ofText_of_dotFree dotFree

theorem allows_body_iff
    {envelope : Envelope}
    {keys : List String}
    {value : Json} :
    envelope.Allows value { head := "body", rest := keys } ↔
      envelope.writtenBody.OpenTo keys := by
  constructor
  · intro allowed
    generalize shape : ({ head := "body", rest := keys } : DottedPath) = path at allowed
    cases allowed with
    | type | id =>
        simp at shape
    | body isOpen =>
        cases shape
        exact isOpen
  · exact .body

/-- In an absent body nothing is met on the way. -/
theorem openTo_writtenBody_iff
    {envelope : Envelope}
    {keys : List String} :
    envelope.writtenBody.OpenTo keys ↔
      ∀ before met,
        before <+: keys →
        before ≠ keys →
        envelope.bodyAt? before = some met →
        met.TakesMembers := by
  constructor
  · intro isOpen before met onTheWay shorter found
    obtain ⟨body, present, found⟩ := Option.bind_eq_some_iff.mp found
    rw [writtenBody, present] at isOpen
    exact isOpen before met onTheWay shorter found
  · intro isOpen before met onTheWay shorter found
    cases before with
    | nil =>
        cases present : envelope.body with
        | some body =>
            refine isOpen [] met onTheWay shorter ?_
            simpa [bodyAt?, writtenBody, present] using found
        | none =>
            rw [writtenBody, present] at found
            exact .inr ⟨[], (Option.some.inj found).symm⟩
    | cons key rest =>
        rw [envelope.at?_writtenBody (List.cons_ne_nil key rest)] at found
        exact isOpen (key :: rest) met onTheWay shorter found

/-- The three cases in which an envelope allows a write at the path of a text. -/
theorem allows_ofText_iff
    {envelope : Envelope}
    {path : String}
    {value : Json} :
    envelope.Allows value (DottedPath.ofText path) ↔
      (∃ keys,
          (∀ key ∈ keys, '.' ∉ key.toList) ∧
            path = bodyPath keys ∧
            envelope.writtenBody.OpenTo keys) ∨
        (path = "type" ∧ envelope.scope = .index ∧ ∃ name, value = .string name) ∨
        (path = "id" ∧ envelope.scope ≠ .document) := by
  constructor
  · intro allowed
    generalize shape : DottedPath.ofText path = read at allowed
    cases allowed with
    | type free text =>
        exact .inr (.inl ⟨(ofText_eq_name_iff (by decide)).mp shape, free, _, text⟩)
    | id free =>
        exact .inr (.inr ⟨(ofText_eq_name_iff (by decide)).mp shape, free⟩)
    | body isOpen =>
        obtain ⟨dotFree, spelled⟩ := ofText_eq_body_iff.mp shape
        exact .inl ⟨_, dotFree, spelled, isOpen⟩
  · rintro (⟨keys, dotFree, spelled, isOpen⟩ | ⟨rfl, free, name, text⟩ | ⟨rfl, free⟩)
    · rw [ofText_eq_body_iff.mpr ⟨dotFree, spelled⟩]
      exact .body isOpen
    · rw [(ofText_eq_name_iff (by decide)).mpr rfl]
      exact .type free text
    · rw [(ofText_eq_name_iff (by decide)).mpr rfl]
      exact .id free

/--
For every envelope, every text of a path and every value: a write succeeds
exactly if the path leads into the body and whatever it meets before its end is
an object or `null`, or if it is `type`, the envelope is for an index and the
value is a string, or if it is `id` and the envelope is not for a document.  A
write that fails is refused for what was passed, and whether a write into the
body succeeds does not depend on the value.  What an envelope was made for is
told by its scope after any writes.
-/
theorem write_succeeds_iff
    (envelope : Envelope)
    (path : String)
    (value : Json) :
    ((∃ after, envelope.set path value = .ok after) ↔
        (∃ keys,
            (∀ key ∈ keys, '.' ∉ key.toList) ∧
              path = bodyPath keys ∧
              ∀ before met,
                before <+: keys →
                before ≠ keys →
                envelope.bodyAt? before = some met →
                met.TakesMembers) ∨
          (path = "type" ∧ envelope.scope = .index ∧ ∃ name, value = .string name) ∨
          (path = "id" ∧ envelope.scope ≠ .document)) ∧
      (∀ cause,
        envelope.set path value = .error cause →
        ∃ fault, cause = .invalidArgument fault) ∧
      (∀ other,
        DottedPath.StartsAt "body" path →
        ((∃ after, envelope.set path value = .ok after) ↔
          ∃ after, envelope.set path other = .ok after)) ∧
      ∀ scope made writes,
        Made scope made →
        (made.attemptAll writes).scope = scope := by
  refine ⟨?_, fun cause => setAt_error, ?_, fun scope made writes isMade =>
    isMade.scope_attemptAll writes⟩
  · rw [set, exists_setAt_iff_allows, allows_ofText_iff]
    simp only [openTo_writtenBody_iff]
  · intro other starts
    have inBody : (DottedPath.ofText path).head = "body" :=
      DottedPath.head_of_startsAt (by decide) starts
    generalize shape : DottedPath.ofText path = read at inBody
    obtain ⟨head, keys⟩ := read
    cases inBody
    rw [set, set, shape, exists_setAt_iff_allows, exists_setAt_iff_allows, allows_body_iff,
      allows_body_iff]

/-- A write goes through `null` and stops at a number, and only an index takes another type. -/
theorem writes_to_partly_written :
    (∃ after, partlyWritten.set "body.mappings.products" .null = .ok after) ∧
      (∃ fault,
        partlyWritten.set "body.settings.replicas.least" .null =
          .error (.invalidArgument fault)) ∧
      (∃ after, partlyWritten.set "type" (.string "products") = .ok after) ∧
      ¬ (∃ after, (ofType "shop" "products").set "type" (.string "orders") = .ok after) ∧
      DottedPath.StartsAt "body" "body.mappings.products" ∧
      (∃ after, partlyWritten.set "body.mappings.products" (.boolean true) = .ok after) ∧
      Made .index (ofIndex "shop") ∧
      ((ofIndex "shop").attemptAll mixedWrites).scope = .index := by
  obtain ⟨onNull, _, unaffected, byScope⟩ :=
    write_succeeds_iff partlyWritten "body.mappings.products" .null
  obtain ⟨_, onNumber, _⟩ :=
    write_succeeds_iff partlyWritten "body.settings.replicas.least" .null
  obtain ⟨onIndex, _⟩ := write_succeeds_iff partlyWritten "type" (.string "products")
  obtain ⟨onType, _⟩ :=
    write_succeeds_iff (ofType "shop" "products") "type" (.string "orders")
  have isOpen : partlyWritten.writtenBody.OpenTo ["mappings", "products"] :=
    Json.obstacle?_eq_none_iff.mp rfl
  have throughNull : ∃ after, partlyWritten.set "body.mappings.products" .null = .ok after :=
    onNull.mpr (.inl ⟨_, by decide, by decide, openTo_writtenBody_iff.mp isOpen⟩)
  have refused :
      partlyWritten.set "body.settings.replicas.least" .null =
        .error (.invalidArgument (.insideValue "least" (.ofUInt64 1))) := by
    rfl
  have starts : DottedPath.StartsAt "body" "body.mappings.products" :=
    .inr ⟨"mappings.products", by decide⟩
  have made : Made .index (ofIndex "shop") :=
    .index (forIndex_of_named (by decide : (IndexDefinition.named "shop").name ≠ ""))
  refine
    ⟨throughNull, ?_, onIndex.mpr (.inr (.inl ⟨rfl, rfl, _, rfl⟩)), ?_, starts,
      (unaffected _ starts).mp throughNull, made, byScope _ _ mixedWrites made⟩
  · obtain ⟨fault, cause⟩ := onNumber _ refused
    exact ⟨fault, cause ▸ refused⟩
  · intro succeeds
    rcases onType.mp succeeds with ⟨keys, dotFree, spelled, _⟩ | ⟨_, isIndex, _⟩ | ⟨isId, _⟩
    · have read := ofText_eq_body_iff.mpr ⟨dotFree, spelled⟩
      have oneName : '.' ∉ "type".toList := by
        decide
      simp [DottedPath.ofText_of_dotFree oneName] at read
    · cases isIndex
    · simp at isId

end Envelope

end Retrieval
