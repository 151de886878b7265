import Retrieval.Proofs.Paths

namespace Retrieval

/-!
# Writes inside a value

A write at a path of keys goes through objects and makes the objects that are
missing.  Whether it is possible depends on the path and on the value that is
there, never on what is written.  A write that is possible puts its value at the
path, leaves an object at each place on the way, and changes no place beside the
path.  A second write at the same path replaces what the first one wrote, and two
writes at paths that part from each other can be made in either order.
-/

namespace Json

/-- The members of an object; any other value has none. -/
def members : Json → Members
  | .object members => members
  | _ => []

/-- What stands at a key, `null` if nothing does. -/
def child (value : Json) (key : String) : Json :=
  (value.member? key).getD .null

/-- A value with another one at a path, where everything on the way becomes an object. -/
def put (value : Json) : (path : List String) → (written : Json) → Json
  | [], written => written
  | key :: rest, written =>
      .object (Members.insert key ((value.child key).put rest written) value.members)

/-- Members can be set in a value: it is an object, or `null`, which counts as an empty one. -/
def TakesMembers (value : Json) : Prop :=
  value = .null ∨ ∃ members, value = .object members

/-- A path is open: whatever stands before its end takes members. -/
def OpenTo (value : Json) (path : List String) : Prop :=
  ∀ before met,
    before <+: path →
    before ≠ path →
    value.at? before = some met →
    met.TakesMembers

/-- What is in the way of a write at a path: the first value that takes no members. -/
def obstacle? (value : Json) : (path : List String) → Option ArgumentFault
  | [] => none
  | key :: rest =>
      match value with
      | .null | .object _ => (value.child key).obstacle? rest
      | found => some (.insideValue key found)

/-- Two paths part at a key, and neither leads through the end of the other. -/
inductive Part : (path other : List String) → Prop where
  | here
      {key other : String}
      (different : key ≠ other)
      (path more : List String) :
      Part (key :: path) (other :: more)
  | later
      (key : String)
      {path other : List String}
      (parting : Part path other) :
      Part (key :: path) (key :: other)

/-- Paths part exactly if neither of them is the beginning of the other. -/
theorem part_iff {path other : List String} :
    Part path other ↔ ¬ path <+: other ∧ ¬ other <+: path := by
  constructor
  · intro parting
    induction parting with
    | here different path more =>
        simp [List.cons_prefix_cons, different, different.symm]
    | later key parting inductionHypothesis =>
        simpa [List.cons_prefix_cons] using inductionHypothesis
  · intro incomparable
    induction path generalizing other with
    | nil =>
        exact absurd List.nil_prefix incomparable.1
    | cons key rest inductionHypothesis =>
        cases other with
        | nil =>
            exact absurd List.nil_prefix incomparable.2
        | cons name more =>
            by_cases same : key = name
            · subst same
              simp only [List.cons_prefix_cons, true_and] at incomparable
              exact .later key (inductionHypothesis incomparable)
            · exact .here same rest more

theorem Part.symm
    {path other : List String}
    (parting : Part path other) :
    Part other path :=
  part_iff.mpr (part_iff.mp parting).symm

theorem Part.ne_nil
    {path other : List String}
    (parting : Part path other) :
    other ≠ [] := by
  rintro rfl
  cases parting

theorem member?_eq (value : Json) (key : String) :
    value.member? key = Members.find? key value.members := by
  cases value <;> rfl

theorem at?_cons
    (value : Json)
    (key : String)
    (path : List String) :
    value.at? (key :: path) = (value.member? key).bind (at? path) :=
  rfl

/-- A path that goes on below a key goes on below what stands at the key. -/
theorem at?_cons_of_ne_nil
    (value : Json)
    (key : String)
    {path : List String}
    (longer : path ≠ []) :
    value.at? (key :: path) = (value.child key).at? path := by
  rw [at?_cons, child]
  cases value.member? key with
  | some found =>
      rfl
  | none =>
      cases path with
      | nil =>
          exact absurd rfl longer
      | cons next more =>
          rfl

theorem put_cons
    (value : Json)
    (key : String)
    (path : List String)
    (written : Json) :
    value.put (key :: path) written =
      .object (Members.insert key ((value.child key).put path written) value.members) :=
  rfl

theorem member?_put_self
    (value : Json)
    (key : String)
    (path : List String)
    (written : Json) :
    (value.put (key :: path) written).member? key =
      some ((value.child key).put path written) := by
  rw [put_cons, member?_eq]
  exact Members.find?_insert_self _ _ _

theorem member?_put_of_ne
    (value : Json)
    {key other : String}
    (different : other ≠ key)
    (path : List String)
    (written : Json) :
    (value.put (key :: path) written).member? other = value.member? other := by
  rw [put_cons, member?_eq, member?_eq]
  exact Members.find?_insert_of_ne different _ _

@[simp] theorem child_put_self
    (value : Json)
    (key : String)
    (path : List String)
    (written : Json) :
    (value.put (key :: path) written).child key = (value.child key).put path written := by
  rw [child, member?_put_self, Option.getD_some]

theorem child_put_of_ne
    (value : Json)
    {key other : String}
    (different : other ≠ key)
    (path : List String)
    (written : Json) :
    (value.put (key :: path) written).child other = value.child other := by
  rw [child, child, member?_put_of_ne value different]

/-! ## What a lookup finds after a write -/

/-- At its path and below it a write is found as it was written. -/
theorem at?_put_append
    (value : Json)
    (path more : List String)
    (written : Json) :
    (value.put path written).at? (path ++ more) = written.at? more := by
  induction path generalizing value with
  | nil =>
      rfl
  | cons key rest inductionHypothesis =>
      rw [List.cons_append, at?_cons, member?_put_self, Option.bind_some]
      exact inductionHypothesis (value.child key)

/-- On the way to a write there are objects. -/
theorem at?_put_of_prefix
    (value : Json)
    {before path : List String}
    (onTheWay : before <+: path)
    (shorter : before ≠ path)
    (written : Json) :
    ∃ members, (value.put path written).at? before = some (.object members) := by
  induction path generalizing value before with
  | nil =>
      exact absurd (List.prefix_nil.mp onTheWay) shorter
  | cons key rest inductionHypothesis =>
      cases before with
      | nil =>
          exact ⟨_, rfl⟩
      | cons name others =>
          obtain ⟨rfl, onTheRest⟩ := List.cons_prefix_cons.mp onTheWay
          have shorterRest : others ≠ rest := fun same => shorter (by rw [same])
          rw [at?_cons, member?_put_self, Option.bind_some]
          exact inductionHypothesis (value.child name) onTheRest shorterRest

/-- At a path that parts from the path of a write, nothing changes. -/
theorem at?_put_of_part
    {path other : List String}
    (parting : Part path other)
    (value written : Json) :
    (value.put path written).at? other = value.at? other := by
  induction parting generalizing value with
  | here different path more =>
      rw [at?_cons, at?_cons, member?_put_of_ne value different.symm]
  | later key parting inductionHypothesis =>
      rw [at?_cons_of_ne_nil _ key parting.ne_nil, at?_cons_of_ne_nil _ key parting.ne_nil,
        child_put_self]
      exact inductionHypothesis (value.child key)

/-! ## Two writes -/

theorem put_put_cons
    (value : Json)
    (key other : String)
    (path more : List String)
    (first second : Json) :
    (value.put (key :: path) first).put (other :: more) second =
      .object
        (Members.insert other (((value.put (key :: path) first).child other).put more second)
          (Members.insert key ((value.child key).put path first) value.members)) :=
  rfl

/-- A write at a path replaces an earlier one there. -/
theorem put_put
    (value : Json)
    (path : List String)
    (first second : Json) :
    (value.put path first).put path second = value.put path second := by
  induction path generalizing value with
  | nil =>
      rfl
  | cons key rest inductionHypothesis =>
      rw [put_put_cons, child_put_self, inductionHypothesis, Members.insert_insert_self, put_cons]

/-- Writes at paths that part from each other can change places. -/
theorem put_comm
    {path other : List String}
    (parting : Part path other)
    (value first second : Json) :
    (value.put path first).put other second = (value.put other second).put path first := by
  induction parting generalizing value with
  | here different path more =>
      rw [put_put_cons, child_put_of_ne value different.symm, put_put_cons,
        child_put_of_ne value different, Members.insert_comm different]
  | later key parting inductionHypothesis =>
      rw [put_put_cons, child_put_self, Members.insert_insert_self, put_put_cons, child_put_self,
        Members.insert_insert_self, inductionHypothesis]

/-! ## Which writes are possible -/

theorem takesMembers_put
    (value : Json)
    (key : String)
    (path : List String)
    (written : Json) :
    (value.put (key :: path) written).TakesMembers :=
  .inr ⟨_, rfl⟩

/-- Nothing is in the way at the value itself. -/
theorem openTo_nil (value : Json) : value.OpenTo [] := by
  intro before met onTheWay shorter
  exact absurd (List.prefix_nil.mp onTheWay) shorter

/-- A path is open if its first key can be set and the rest is open below it. -/
theorem openTo_cons_iff
    {value : Json}
    {key : String}
    {rest : List String} :
    value.OpenTo (key :: rest) ↔ value.TakesMembers ∧ (value.child key).OpenTo rest := by
  constructor
  · intro isOpen
    refine ⟨isOpen [] value List.nil_prefix (List.cons_ne_nil key rest).symm rfl, ?_⟩
    intro before met onTheWay shorter found
    cases below : value.member? key with
    | some held =>
        refine isOpen (key :: before) met ?_ ?_ ?_
        · exact List.cons_prefix_cons.mpr ⟨rfl, onTheWay⟩
        · exact fun same => shorter (List.cons.inj same).2
        · rw [at?_cons, below, Option.bind_some]
          simpa [child, below] using found
    | none =>
        rw [child, below, Option.getD_none] at found
        cases before with
        | nil =>
            exact .inl (Option.some.inj found).symm
        | cons name others =>
            cases found
  · rintro ⟨takes, isOpen⟩ before met onTheWay shorter found
    cases before with
    | nil =>
        exact Option.some.inj found ▸ takes
    | cons name others =>
        obtain ⟨rfl, onTheRest⟩ := List.cons_prefix_cons.mp onTheWay
        obtain ⟨held, below, found⟩ := Option.bind_eq_some_iff.mp found
        refine isOpen others met onTheRest (fun same => shorter (by rw [same])) ?_
        rwa [child, below, Option.getD_some]

/-- After a write its path is open. -/
theorem openTo_put_self
    (value : Json)
    (path : List String)
    (written : Json) :
    (value.put path written).OpenTo path := by
  induction path generalizing value with
  | nil =>
      exact openTo_nil _
  | cons key rest inductionHypothesis =>
      rw [openTo_cons_iff, child_put_self]
      exact ⟨takesMembers_put value key rest written, inductionHypothesis (value.child key)⟩

/-- A write that is possible opens no path that parts from its own, and closes none. -/
theorem openTo_put_iff
    {path other : List String}
    (parting : Part path other)
    {value : Json}
    (isOpen : value.OpenTo path)
    (written : Json) :
    (value.put path written).OpenTo other ↔ value.OpenTo other := by
  induction parting generalizing value with
  | here different path more =>
      obtain ⟨takes, _⟩ := openTo_cons_iff.mp isOpen
      rw [openTo_cons_iff, openTo_cons_iff, child_put_of_ne value different.symm]
      simp only [takesMembers_put, takes]
  | later key parting inductionHypothesis =>
      obtain ⟨takes, openBelow⟩ := openTo_cons_iff.mp isOpen
      rw [openTo_cons_iff, openTo_cons_iff, child_put_self, inductionHypothesis openBelow]
      simp only [takesMembers_put, takes]

/-- Something is in the way exactly if the path is not open. -/
theorem obstacle?_eq_none_iff
    {value : Json}
    {path : List String} :
    value.obstacle? path = none ↔ value.OpenTo path := by
  induction path generalizing value with
  | nil =>
      simp [obstacle?, openTo_nil]
  | cons key rest inductionHypothesis =>
      rw [openTo_cons_iff, ← inductionHypothesis]
      cases value <;> simp [obstacle?, TakesMembers]

/-- Below `null` nothing is in the way. -/
theorem obstacle?_null (path : List String) : obstacle? .null path = none := by
  induction path with
  | nil =>
      rfl
  | cons key rest inductionHypothesis =>
      exact inductionHypothesis

end Json

namespace Envelope

/-- A nested write puts its value at the path, unless something is in the way. -/
theorem setNested_eq
    (target : Json)
    (path : List String)
    (value : Json) :
    setNested target path value =
      match target.obstacle? path with
      | some fault => .error (.invalidArgument fault)
      | none => .ok (target.put path value) := by
  induction path generalizing target with
  | nil =>
      rfl
  | cons key rest inductionHypothesis =>
      cases target with
      | null =>
          have free : Json.obstacle? .null (key :: rest) = none := Json.obstacle?_null _
          have below := inductionHypothesis .null
          rw [Json.obstacle?_null] at below
          simp only [setNested, below, free]
          rfl
      | object members =>
          have below := inductionHypothesis ((Members.find? key members).getD .null)
          simp only [setNested, below, Json.obstacle?, Json.child, Json.member?]
          cases ((Members.find? key members).getD Json.null).obstacle? rest with
          | some fault =>
              rfl
          | none =>
              rfl
      | boolean | number | string | array =>
          rfl

/-- A nested write is possible if its path is open, and then puts its value there. -/
theorem setNested_eq_ok_iff
    {target after : Json}
    {path : List String}
    {value : Json} :
    setNested target path value = .ok after ↔
      target.OpenTo path ∧ after = target.put path value := by
  rw [setNested_eq, ← Json.obstacle?_eq_none_iff]
  cases target.obstacle? path with
  | some fault =>
      simp
  | none =>
      simp [eq_comm]

end Envelope

end Retrieval
