import Retrieval.Proofs.PossibleWrites

namespace Retrieval

/-!
# Independent writes in any order

Writes are independent if the path of none of them leads through the path of
another one.  Such writes neither help nor hinder each other: each of them is
possible among the others exactly if it is possible alone, and the envelope that
they make together is the same in every order.
-/

namespace Json

theorem Part.irrefl (path : List String) : ¬ Part path path :=
  fun parting => (part_iff.mp parting).1 List.prefix_rfl

theorem part_cons_self_iff
    {key : String}
    {path other : List String} :
    Part (key :: path) (key :: other) ↔ Part path other := by
  simp [part_iff, List.cons_prefix_cons]

end Json

namespace Envelope

/-- Write at one path after another; a write that fails ends it. -/
def setAll (envelope : Envelope) : (writes : List (String × Json)) → Except Error Envelope
  | [] => .ok envelope
  | (path, value) :: rest => do
      let next ← envelope.set path value
      next.setAll rest

theorem setAll_cons_eq_ok_iff
    {envelope last : Envelope}
    {write : String × Json}
    {rest : List (String × Json)} :
    envelope.setAll (write :: rest) = .ok last ↔
      ∃ next, envelope.set write.1 write.2 = .ok next ∧ next.setAll rest = .ok last := by
  obtain ⟨path, value⟩ := write
  cases written : envelope.set path value with
  | ok next =>
      simp [setAll, written, bind, Except.bind]
  | error cause =>
      simp [setAll, written, bind, Except.bind]

/-- Writes that fail are refused for what was passed to one of them. -/
theorem setAll_error
    {envelope : Envelope}
    {writes : List (String × Json)}
    {cause : Error}
    (refused : envelope.setAll writes = .error cause) :
    ∃ fault, cause = .invalidArgument fault := by
  induction writes generalizing envelope with
  | nil =>
      cases refused
  | cons write rest inductionHypothesis =>
      obtain ⟨path, value⟩ := write
      cases written : envelope.set path value with
      | ok next =>
          simp only [setAll, written, bind, Except.bind] at refused
          exact inductionHypothesis refused
      | error fault =>
          simp only [setAll, written, bind, Except.bind] at refused
          cases refused
          exact setAt_error written

section

variable {envelope middle last : Envelope} {path other : DottedPath} {value held : Json}

/-- Of an envelope a write asks no more than its scope and an open way. -/
theorem Allows.of_opens
    (sameScope : middle.scope = envelope.scope)
    (opens :
      ∀ keys,
        other = { head := "body", rest := keys } →
        middle.writtenBody.OpenTo keys →
        envelope.writtenBody.OpenTo keys)
    (allowed : middle.Allows held other) :
    envelope.Allows held other := by
  cases allowed with
  | type free text =>
      exact .type (sameScope ▸ free) text
  | id free =>
      exact .id (sameScope ▸ free)
  | body isOpen =>
      exact .body (opens _ rfl isOpen)

/-- A write neither opens nor closes a path that parts from its own. -/
theorem Written.allows_iff
    (parting : Json.Part (path.head :: path.rest) (other.head :: other.rest))
    (written : envelope.Written path value middle) :
    middle.Allows held other ↔ envelope.Allows held other := by
  have sameScope : middle.scope = envelope.scope := written.keeps.scope
  have sameOpen (keys : List String) (inBody : other = { head := "body", rest := keys }) :
      middle.writtenBody.OpenTo keys ↔ envelope.writtenBody.OpenTo keys := by
    cases written with
    | type | id =>
        rfl
    | body named nested =>
        obtain ⟨isOpen, rfl⟩ := setNested_eq_ok_iff.mp nested
        rw [named, inBody, Json.part_cons_self_iff] at parting
        exact Json.openTo_put_iff parting isOpen value
  constructor
  · exact Allows.of_opens sameScope fun keys inBody => (sameOpen keys inBody).mp
  · exact Allows.of_opens sameScope.symm fun keys inBody => (sameOpen keys inBody).mpr

/-- Two writes whose paths part can change places. -/
theorem Written.swap
    (parting : Json.Part (path.head :: path.rest) (other.head :: other.rest))
    (first : envelope.Written path value middle)
    (second : middle.Written other held last) :
    ∃ between, envelope.Written other held between ∧ between.Written path value last := by
  cases first with
  | type free named text =>
      cases second with
      | type _ sameName _ =>
          rw [named, sameName] at parting
          exact absurd parting (Json.Part.irrefl _)
      | id otherFree otherNamed =>
          exact ⟨_, .id otherFree otherNamed, .type free named text⟩
      | body otherNamed nested =>
          exact ⟨_, .body otherNamed nested, .type free named text⟩
  | id free named =>
      cases second with
      | type otherFree otherNamed text =>
          exact ⟨_, .type otherFree otherNamed text, .id free named⟩
      | id _ sameName =>
          rw [named, sameName] at parting
          exact absurd parting (Json.Part.irrefl _)
      | body otherNamed nested =>
          exact ⟨_, .body otherNamed nested, .id free named⟩
  | body named nested =>
      cases second with
      | type otherFree otherNamed text =>
          exact ⟨_, .type otherFree otherNamed text, .body named nested⟩
      | id otherFree otherNamed =>
          exact ⟨_, .id otherFree otherNamed, .body named nested⟩
      | body otherNamed otherNested =>
          rw [named, otherNamed, Json.part_cons_self_iff] at parting
          obtain ⟨isOpen, rfl⟩ := setNested_eq_ok_iff.mp nested
          obtain ⟨otherOpen, rfl⟩ := setNested_eq_ok_iff.mp otherNested
          have openBefore := (Json.openTo_put_iff parting isOpen value).mp otherOpen
          have openAfter := (Json.openTo_put_iff parting.symm openBefore held).mpr isOpen
          refine ⟨_, .body otherNamed (setNested_eq_ok_iff.mpr ⟨openBefore, rfl⟩), ?_⟩
          refine .body named (setNested_eq_ok_iff.mpr ⟨openAfter, ?_⟩)
          exact Json.put_comm parting _ value held

end

/-- The paths of any two writes part. -/
def Independent (writes : List (String × Json)) : Prop :=
  writes.Pairwise fun write other =>
    Json.Part (DottedPath.parts write.1) (DottedPath.parts other.1)

theorem Independent.of_perm
    {order writes : List (String × Json)}
    (reordered : order.Perm writes)
    (independent : Independent writes) :
    Independent order :=
  reordered.symm.pairwise independent Json.Part.symm

/-- Two writes in a row whose paths part can change places. -/
theorem setAll_swap
    {envelope last : Envelope}
    {write other : String × Json}
    (parting : Json.Part (DottedPath.parts write.1) (DottedPath.parts other.1))
    {rest : List (String × Json)}
    (made : envelope.setAll (write :: other :: rest) = .ok last) :
    envelope.setAll (other :: write :: rest) = .ok last := by
  obtain ⟨middle, first, made⟩ := setAll_cons_eq_ok_iff.mp made
  obtain ⟨both, second, made⟩ := setAll_cons_eq_ok_iff.mp made
  obtain ⟨between, otherFirst, thenWrite⟩ :=
    (setAt_eq_ok_iff.mp first).swap parting (setAt_eq_ok_iff.mp second)
  refine setAll_cons_eq_ok_iff.mpr ⟨between, setAt_eq_ok_iff.mpr otherFirst, ?_⟩
  exact setAll_cons_eq_ok_iff.mpr ⟨both, setAt_eq_ok_iff.mpr thenWrite, made⟩

/-- What independent writes make in one order, they make in every order. -/
theorem setAll_eq_ok_iff_of_perm
    {envelope last : Envelope}
    {order writes : List (String × Json)}
    (reordered : order.Perm writes)
    (independent : Independent writes) :
    envelope.setAll order = .ok last ↔ envelope.setAll writes = .ok last := by
  induction reordered generalizing envelope with
  | nil =>
      rfl
  | cons write _ inductionHypothesis =>
      have others : Independent _ := independent.of_cons
      simp only [setAll_cons_eq_ok_iff, inductionHypothesis others]
  | swap write other rest =>
      have parting := List.rel_of_pairwise_cons independent List.mem_cons_self
      exact ⟨setAll_swap parting.symm, setAll_swap parting⟩
  | trans _ second firstHypothesis secondHypothesis =>
      exact (firstHypothesis (independent.of_perm second)).trans (secondHypothesis independent)

/-- Independent writes are possible together exactly if each of them is possible alone. -/
theorem exists_setAll_iff
    {envelope : Envelope}
    {writes : List (String × Json)}
    (independent : Independent writes) :
    (∃ last, envelope.setAll writes = .ok last) ↔
      ∀ write ∈ writes, ∃ after, envelope.set write.1 write.2 = .ok after := by
  induction writes generalizing envelope with
  | nil =>
      simp [setAll]
  | cons write rest inductionHypothesis =>
      have others : Independent rest := independent.of_cons
      have unaffected
          {next : Envelope}
          (written : envelope.set write.1 write.2 = .ok next)
          {other : String × Json}
          (member : other ∈ rest) :
          (∃ after, next.set other.1 other.2 = .ok after) ↔
            ∃ after, envelope.set other.1 other.2 = .ok after := by
        have parting := List.rel_of_pairwise_cons independent member
        simp only [set, exists_setAt_iff_allows]
        exact (setAt_eq_ok_iff.mp written).allows_iff parting
      constructor
      · rintro ⟨last, made⟩
        obtain ⟨next, written, made⟩ := setAll_cons_eq_ok_iff.mp made
        refine List.forall_mem_cons.mpr ⟨⟨next, written⟩, fun other member => ?_⟩
        have possible := (inductionHypothesis others).mp ⟨last, made⟩ other member
        exact (unaffected written member).mp possible
      · intro possible
        obtain ⟨⟨next, written⟩, possibleAfter⟩ := List.forall_mem_cons.mp possible
        obtain ⟨last, made⟩ := (inductionHypothesis others).mpr fun other member =>
          (unaffected written member).mpr (possibleAfter other member)
        exact ⟨last, setAll_cons_eq_ok_iff.mpr ⟨next, written, made⟩⟩

/--
For every envelope and all writes of which the path of none begins with the path
of another, part by part: either the writes succeed in every order and make the
same envelope, or in every order one of them is refused for what was passed to
it.  They succeed exactly if each of them succeeds alone.  The paths may lead into
the body, and one of them may be the type and one the identifier.
-/
theorem independent_writes_in_any_order
    (envelope : Envelope)
    (writes : List (String × Json))
    (apart :
      writes.Pairwise fun write other =>
        ¬ DottedPath.parts write.1 <+: DottedPath.parts other.1 ∧
          ¬ DottedPath.parts other.1 <+: DottedPath.parts write.1) :
    ((∃ last, ∀ order, order.Perm writes → envelope.setAll order = .ok last) ∨
        ∀ order,
          order.Perm writes →
          ∃ fault, envelope.setAll order = .error (.invalidArgument fault)) ∧
      ((∃ last, envelope.setAll writes = .ok last) ↔
        ∀ write ∈ writes, ∃ after, envelope.set write.1 write.2 = .ok after) := by
  have independent : Independent writes :=
    apart.imp fun incomparable => Json.part_iff.mpr incomparable
  refine ⟨?_, exists_setAll_iff independent⟩
  cases made : envelope.setAll writes with
  | ok last =>
      refine .inl ⟨last, fun order reordered => ?_⟩
      exact (setAll_eq_ok_iff_of_perm reordered independent).mpr made
  | error cause =>
      refine .inr fun order reordered => ?_
      cases outcome : envelope.setAll order with
      | ok last =>
          rw [(setAll_eq_ok_iff_of_perm reordered independent).mp outcome] at made
          cases made
      | error fault =>
          obtain ⟨reason, rfl⟩ := setAll_error outcome
          exact ⟨reason, rfl⟩

/-- Writes to two places in the body, of which one is below `null`, and to both free names. -/
def separateWrites : List (String × Json) := [
  ("body.settings.refresh", .string "1s"),
  ("type", .string "products"),
  ("body.mappings.products", .boolean true),
  ("id", .ofUInt64 7)]

/-- The envelope for an index after the separate writes. -/
def separatelyWritten : Envelope where
  scope := .index
  index := "shop"
  type := some "products"
  id := some (.ofUInt64 7)
  body := some (.object [
    ("mappings", .object [("products", .boolean true)]),
    ("settings", .object [("refresh", .string "1s"), ("replicas", .ofUInt64 1)])])

/-- Separate writes make one envelope forwards and backwards. -/
theorem separate_writes_backwards :
    (separateWrites.Pairwise fun write other =>
        ¬ DottedPath.parts write.1 <+: DottedPath.parts other.1 ∧
          ¬ DottedPath.parts other.1 <+: DottedPath.parts write.1) ∧
      partlyWritten.setAll separateWrites = .ok separatelyWritten ∧
      partlyWritten.setAll separateWrites.reverse = .ok separatelyWritten ∧
      ∃ after, partlyWritten.set "id" (.ofUInt64 7) = .ok after := by
  have apart :
      separateWrites.Pairwise fun write other =>
        ¬ DottedPath.parts write.1 <+: DottedPath.parts other.1 ∧
          ¬ DottedPath.parts other.1 <+: DottedPath.parts write.1 := by
    decide
  have made : partlyWritten.setAll separateWrites = .ok separatelyWritten := by
    with_unfolding_all rfl
  obtain ⟨inAnyOrder, alone⟩ :=
    independent_writes_in_any_order partlyWritten separateWrites apart
  refine ⟨apart, made, ?_, alone.mp ⟨_, made⟩ ("id", .ofUInt64 7) (by decide)⟩
  rcases inAnyOrder with ⟨last, same⟩ | refused
  · have forwards := same separateWrites (.refl _)
    have backwards := same separateWrites.reverse (List.reverse_perm _)
    exact backwards.trans (forwards.symm.trans made)
  · obtain ⟨fault, outcome⟩ := refused separateWrites (.refl _)
    rw [made] at outcome
    cases outcome

end Envelope

end Retrieval
