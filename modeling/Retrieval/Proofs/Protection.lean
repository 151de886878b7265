import Mathlib.Tactic.SplitIfs
import Retrieval.Proofs.TypeMapping

namespace Retrieval

/-!
# The address of an envelope is protected

A write at a path sets the type, the identifier or the body of an envelope, and
does so only if the first part of the path is not protected.  Whatever is
written to an envelope, and in whatever order, it stays addressed as it was when
it was made, and every further write to its address is rejected.
-/

namespace DottedPath

/-- The first part of a path is a key; the path may go on or not. -/
def StartsAt (key path : String) : Prop :=
  path = key ∨ ∃ rest, path = key ++ "." ++ rest

theorem head_of_startsAt
    {key path : String}
    (dotFree : '.' ∉ key.toList)
    (starts : StartsAt key path) :
    (ofText path).head = key := by
  rcases starts with rfl | ⟨rest, rfl⟩
  · rw [ofText_of_dotFree dotFree]
  · rw [ofText_append_dot dotFree]

end DottedPath

namespace Envelope

/-- The index is protected in every envelope. -/
theorem Scope.index_mem_protectedKeys (scope : Scope) :
    "index" ∈ scope.protectedKeys := by
  cases scope <;> decide

theorem Scope.eq_of_mem_protectedKeys
    (scope : Scope)
    {key : String}
    (protects : key ∈ scope.protectedKeys) :
    key = "index" ∨ key = "type" ∨ key = "id" := by
  have listed :
      ∀ name ∈ scope.protectedKeys, name = "index" ∨ name = "type" ∨ name = "id" := by
    cases scope <;> decide
  exact listed key protects

theorem Scope.body_not_mem_protectedKeys (scope : Scope) :
    "body" ∉ scope.protectedKeys := by
  cases scope <;> decide

/-- What a write at a path makes of an envelope. -/
inductive Written (envelope : Envelope) (path : DottedPath) (value : Json) : Envelope → Prop where
  | type
      {name : String}
      (free : "type" ∉ envelope.scope.protectedKeys)
      (named : path = { head := "type", rest := [] })
      (text : value = .string name) :
      Written envelope path value { envelope with type := some name }
  | id
      (free : "id" ∉ envelope.scope.protectedKeys)
      (named : path = { head := "id", rest := [] }) :
      Written envelope path value { envelope with id := some value }
  | body
      {body : Json}
      (named : path.head = "body")
      (nested : setNested (envelope.body.getD Json.emptyObject) path.rest value = .ok body) :
      Written envelope path value { envelope with body := some body }

variable {envelope after : Envelope} {value : Json}

/-- A write succeeds in one of three ways, and in no other. -/
theorem setAt_eq_ok_iff {path : DottedPath} :
    envelope.setAt path value = .ok after ↔ envelope.Written path value after := by
  obtain ⟨head, rest⟩ := path
  constructor
  · intro written
    simp only [setAt] at written
    split_ifs at written with protects onward isIndex isType isId isBody
    · exact absurd (isIndex ▸ envelope.scope.index_mem_protectedKeys) protects
    · subst isType
      have ends : rest = [] := by
        simpa using onward
      cases value with
      | string name =>
          cases written
          exact .type protects (by rw [ends]) rfl
      | _ =>
          cases written
    · subst isId
      have ends : rest = [] := by
        simpa using onward
      cases written
      exact .id protects (by rw [ends])
    · subst isBody
      cases nested : setNested (envelope.body.getD Json.emptyObject) rest value with
      | ok body =>
          simp only [nested] at written
          cases written
          exact .body rfl nested
      | error cause =>
          simp only [nested] at written
          cases written
  · intro written
    cases written with
    | type free named text =>
        cases named
        simp [setAt, free, text, expectString, bind, Except.bind, pure, Except.pure]
    | id free named =>
        cases named
        simp [setAt, free]
    | body named nested =>
        cases named
        simp only [setAt, Scope.body_not_mem_protectedKeys, nested]
        rfl

/-- A later envelope is addressed as an earlier one was, in all that is protected. -/
structure Keeps (envelope later : Envelope) : Prop where
  scope : later.scope = envelope.scope
  index : later.index = envelope.index
  type : "type" ∈ envelope.scope.protectedKeys → later.type = envelope.type
  id : "id" ∈ envelope.scope.protectedKeys → later.id = envelope.id

theorem Keeps.refl (envelope : Envelope) : envelope.Keeps envelope :=
  ⟨rfl, rfl, fun _ => rfl, fun _ => rfl⟩

theorem Keeps.trans
    {envelope later last : Envelope}
    (first : envelope.Keeps later)
    (second : later.Keeps last) :
    envelope.Keeps last := by
  have sameScope := first.scope
  refine ⟨second.scope.trans sameScope, second.index.trans first.index, ?_, ?_⟩
  · intro protects
    exact (second.type (sameScope ▸ protects)).trans (first.type protects)
  · intro protects
    exact (second.id (sameScope ▸ protects)).trans (first.id protects)

/-- A write keeps the address of an envelope. -/
theorem Written.keeps
    {path : DottedPath}
    (written : envelope.Written path value after) :
    envelope.Keeps after := by
  cases written with
  | type free named text =>
      exact ⟨rfl, rfl, fun protects => absurd protects free, fun _ => rfl⟩
  | id free named =>
      exact ⟨rfl, rfl, fun _ => rfl, fun protects => absurd protects free⟩
  | body named nested =>
      exact ⟨rfl, rfl, fun _ => rfl, fun _ => rfl⟩

/-- Write at a path if that is possible, and leave the envelope as it is if not. -/
def attempt (envelope : Envelope) (path : String) (value : Json) : Envelope :=
  match envelope.set path value with
  | .ok after => after
  | .error _ => envelope

/-- Write at one path after another, passing over the writes that fail. -/
def attemptAll (envelope : Envelope) (writes : List (String × Json)) : Envelope :=
  writes.foldl (fun held write => held.attempt write.1 write.2) envelope

theorem keeps_attempt (envelope : Envelope) (path : String) (value : Json) :
    envelope.Keeps (envelope.attempt path value) := by
  rw [attempt]
  split
  · next after written =>
    exact (setAt_eq_ok_iff.mp written).keeps
  · exact .refl envelope

/-- Any writes keep the address of an envelope. -/
theorem keeps_attemptAll (envelope : Envelope) (writes : List (String × Json)) :
    envelope.Keeps (envelope.attemptAll writes) := by
  induction writes generalizing envelope with
  | nil =>
      exact .refl envelope
  | cons write rest inductionHypothesis =>
      exact (envelope.keeps_attempt write.1 write.2).trans (inductionHypothesis _)

/-- A write to a protected key fails, whether or not the path goes on below the key. -/
theorem set_of_protected
    {key path : String}
    (protects : key ∈ envelope.scope.protectedKeys)
    (starts : DottedPath.StartsAt key path)
    (value : Json) :
    envelope.set path value = .error (.invalidArgument (.protectedKey key)) := by
  have dotFree : '.' ∉ key.toList := by
    rcases envelope.scope.eq_of_mem_protectedKeys protects with rfl | rfl | rfl <;> decide
  have isHead : (DottedPath.ofText path).head = key :=
    DottedPath.head_of_startsAt dotFree starts
  rw [set, setAt, isHead, if_pos protects]

/-- The document of an envelope has no other keys than four. -/
theorem keys_toJson (envelope : Envelope) :
    ∃ members : Members,
      envelope.toJson = .object members ∧
        members.keys.Sublist ["index", "type", "id", "body"] := by
  obtain ⟨scope, index, type, id, body⟩ := envelope
  refine ⟨_, rfl, ?_⟩
  cases type <;> cases id <;> cases body <;> simp [Members.keys]

/--
An envelope is bound to an address: its document has the members of the address,
and no other keys than those of an envelope, and every write to the address is
rejected.
-/
structure BoundTo (envelope : Envelope) (address : Members) : Prop where
  held : ∀ member ∈ address, envelope.toJson.member? member.1 = some member.2
  keys :
    ∃ members : Members,
      envelope.toJson = .object members ∧
        members.keys.Sublist ["index", "type", "id", "body"]
  rejects :
    ∀ key ∈ address.keys,
      ∀ path value,
        DottedPath.StartsAt key path →
        envelope.set path value = .error (.invalidArgument (.protectedKey key))

theorem member?_index (envelope : Envelope) :
    envelope.toJson.member? "index" = some (.string envelope.index) :=
  rfl

theorem member?_type (envelope : Envelope) :
    envelope.toJson.member? "type" = envelope.type.map Json.string := by
  obtain ⟨scope, index, type, id, body⟩ := envelope
  cases type <;> cases id <;> cases body <;> simp [toJson, Json.member?, Members.find?]

theorem member?_id (envelope : Envelope) :
    envelope.toJson.member? "id" = envelope.id := by
  obtain ⟨scope, index, type, id, body⟩ := envelope
  cases type <;> cases id <;> cases body <;> simp [toJson, Json.member?, Members.find?]

/-- What is protected has the same members in the documents of an envelope and of a later one. -/
theorem Keeps.member?_eq
    {later : Envelope}
    (keeps : envelope.Keeps later)
    {key : String}
    (protects : key ∈ envelope.scope.protectedKeys) :
    later.toJson.member? key = envelope.toJson.member? key := by
  rcases envelope.scope.eq_of_mem_protectedKeys protects with rfl | rfl | rfl
  · rw [member?_index, member?_index, keeps.index]
  · rw [member?_type, member?_type, keeps.type protects]
  · rw [member?_id, member?_id, keeps.id protects]

/-- After any writes an envelope is bound to the address that it was made with. -/
theorem boundTo_attemptAll
    {address : Members}
    (protects : address.keys = envelope.scope.protectedKeys)
    (addressed : ∀ member ∈ address, envelope.toJson.member? member.1 = some member.2)
    (writes : List (String × Json)) :
    (envelope.attemptAll writes).BoundTo address := by
  have keeps := envelope.keeps_attemptAll writes
  refine ⟨fun member inside => ?_, keys_toJson _, fun key listed path value starts => ?_⟩
  · have listed : member.1 ∈ address.keys :=
      List.mem_map_of_mem inside
    rw [keeps.member?_eq (protects ▸ listed)]
    exact addressed member inside
  · refine set_of_protected ?_ starts value
    rw [keeps.scope, ← protects]
    exact listed

/--
For every definition of an index and every record, and after any sequence of
writes of which some may fail: an envelope for the index is bound to its name,
an envelope for the type of the record to the names of its index and its type,
and an envelope for its document to its key as well.  None of these names is
empty.
-/
theorem address_never_changes
    {Record : Type}
    [Indexable Record]
    (definition : IndexDefinition)
    (record : Record)
    (writes : List (String × Json)) :
    (∀ envelope,
      forIndex definition = .ok envelope →
      definition.name ≠ "" ∧
        (envelope.attemptAll writes).BoundTo [("index", .string definition.name)]) ∧
      (∀ envelope,
        forType record = .ok envelope →
        (Indexable.index record).name ≠ "" ∧
          Indexable.documentType record ≠ "" ∧
          (envelope.attemptAll writes).BoundTo [
            ("index", .string (Indexable.index record).name),
            ("type", .string (Indexable.documentType record))]) ∧
      ∀ envelope,
        forDocument record = .ok envelope →
        (Indexable.index record).name ≠ "" ∧
          Indexable.documentType record ≠ "" ∧
          (envelope.attemptAll writes).BoundTo [
            ("index", .string (Indexable.index record).name),
            ("type", .string (Indexable.documentType record)),
            ("id", Indexable.key record)] := by
  refine ⟨fun envelope made => ?_, fun envelope made => ?_, fun envelope made => ?_⟩
  · by_cases unnamed : definition.name = ""
    · rw [forIndex_of_unnamed unnamed] at made
      cases made
    · rw [forIndex_of_named unnamed] at made
      cases made
      exact ⟨unnamed, boundTo_attemptAll rfl (by simp [member?_index, ofIndex]) writes⟩
  · rw [forType_eq, Indexable.addressed_eq_ok_iff] at made
    obtain ⟨complete, rfl⟩ := made
    obtain ⟨typed, named⟩ := Indexable.addressFault?_eq_none_iff.mp complete
    refine ⟨named, typed, boundTo_attemptAll rfl ?_ writes⟩
    simp [member?_index, member?_type, ofType]
  · rw [forDocument_eq, Indexable.addressed_eq_ok_iff] at made
    obtain ⟨complete, rfl⟩ := made
    obtain ⟨typed, named⟩ := Indexable.addressFault?_eq_none_iff.mp complete
    refine ⟨named, typed, boundTo_attemptAll rfl ?_ writes⟩
    simp [member?_index, member?_type, member?_id, ofDocument]

/-- Writes to every part of an address, below it and beside it. -/
def mixedWrites : List (String × Json) := [
  ("index", .string "other"),
  ("type", .string "other"),
  ("id.", .null),
  ("body.price.low", .boolean true),
  ("", .null),
  ("index.name", .null)]

/-- The address of a plain record and of its index is the same after mixed writes. -/
theorem plain_record_stays_addressed :
    let envelope := ofDocument "shop" "products" .null
    let whole := ofIndex "shop"
    forDocument plainlyNamed = .ok envelope ∧
      (envelope.attemptAll mixedWrites).toJson =
        .object [
          ("index", .string "shop"),
          ("type", .string "products"),
          ("id", .null),
          ("body", .object [("price", .object [("low", .boolean true)])])] ∧
      (envelope.attemptAll mixedWrites).toJson.member? "id" = some .null ∧
      (envelope.attemptAll mixedWrites).set "type.name" .null =
        .error (.invalidArgument (.protectedKey "type")) ∧
      forIndex (.named "shop") = .ok whole ∧
      (whole.attemptAll mixedWrites).toJson.member? "index" = some (.string "shop") ∧
      (whole.attemptAll mixedWrites).toJson.member? "type" = some (.string "other") := by
  intro envelope whole
  have made : forDocument plainlyNamed = .ok envelope :=
    rfl
  have madeWhole : forIndex (.named "shop") = .ok whole :=
    rfl
  obtain ⟨ofIndex, _, ofDocument⟩ :=
    address_never_changes (.named "shop") plainlyNamed mixedWrites
  obtain ⟨_, _, bound⟩ := ofDocument envelope made
  obtain ⟨_, boundWhole⟩ := ofIndex whole madeWhole
  refine ⟨made, rfl, ?_, ?_, madeWhole, ?_, rfl⟩
  · exact bound.held ("id", .null) (by simp [plainlyNamed, Indexable.key])
  · exact bound.rejects "type" (by simp [Members.keys]) _ .null (.inr ⟨"name", rfl⟩)
  · exact boundWhole.held ("index", .string "shop") (by simp [IndexDefinition.named])

end Envelope

end Retrieval
