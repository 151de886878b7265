namespace Retrieval

/-!
# JSON values

Numbers keep the distinction between integers and floats: `1` and `1.0` are
different values.  An object is a list of members in the order in which they
are written.  `Members.insert` keeps an object ordered by key, which is the
order of every object whose keys are free; an object with a fixed set of keys
lists them in the order of its schema.

A lookup reads the first member with a key, so the laws of `find?` and
`insert` hold for every list of members, ordered or not.
-/

/-- A number as it was written: with or without a fraction or exponent. -/
inductive Number where
  /-- An integer that is not negative. -/
  | natural (value : UInt64)
  /-- An integer below zero. -/
  | negative (value : Int64)
  /-- A number with a fraction or an exponent, or beyond the range of the integers. -/
  | float (value : Float)
  deriving Repr, DecidableEq

/-- The nearest float; that of an integer below zero is that of its size, negated. -/
def Number.toFloat : Number → Float
  | .natural value => value.toFloat
  | .negative value => -(UInt64.ofNat value.toInt.natAbs).toFloat
  | .float value => value

/-- A number is finite; an integer always is. -/
def Number.isFinite : Number → Bool
  | .natural _ => true
  | .negative _ => true
  | .float value => value.isFinite

/-- A JSON value; the members of an object are kept in the order in which they stand. -/
inductive Json where
  | null
  | boolean (value : Bool)
  | number (value : Number)
  | string (value : String)
  | array (items : List Json)
  | object (members : List (String × Json))
  deriving Repr, Inhabited

/-- The members of an object, each a key with its value. -/
abbrev Members := List (String × Json)

namespace Members

/-- The value of the first member with a key. -/
def find? (key : String) : Members → Option Json
  | [] => none
  | (name, value) :: rest =>
      if name = key then some value else find? key rest

/-- Set a member, in place if the key is present and before the first greater key if it is not. -/
def insert (key : String) (value : Json) : Members → Members
  | [] => [(key, value)]
  | (name, held) :: rest =>
      if key < name then
        (key, value) :: (name, held) :: rest
      else if key = name then
        (key, value) :: rest
      else
        (name, held) :: insert key value rest

/-- The ordered members with the given keys and values; a later pair replaces an earlier one. -/
def ofList (pairs : List (String × Json)) : Members :=
  pairs.foldl (fun members pair => insert pair.1 pair.2 members) []

/-- The keys in the order of the members. -/
def keys (members : Members) : List String :=
  members.map Prod.fst

/-- The keys are strictly increasing. -/
def Ordered : Members → Prop
  | [] => True
  | (name, _) :: rest => (∀ member ∈ rest, name < member.1) ∧ Ordered rest

theorem find?_append
    (key : String)
    (first second : Members) :
    find? key (first ++ second) = (find? key first).or (find? key second) := by
  induction first with
  | nil =>
      rfl
  | cons member rest inductionHypothesis =>
      obtain ⟨name, value⟩ := member
      by_cases named : name = key
      · simp [find?, named]
      · simp [find?, named, inductionHypothesis]

/-- A member that may be left out is found under its own key alone. -/
theorem find?_optional
    (key name : String)
    (write : α → Json)
    (value : Option α) :
    find? key (value.map fun held => (name, write held)).toList =
      if name = key then value.map write else none := by
  cases value with
  | none =>
      simp [find?]
  | some held =>
      simp [find?]

/-- A member that may be left out and is written as it is. -/
theorem find?_optional_value
    (key name : String)
    (value : Option Json) :
    find? key (value.map fun held => (name, held)).toList =
      if name = key then value else none := by
  rw [find?_optional key name fun held => held, Option.map_id']

theorem mem_of_find?
    {key : String}
    {members : Members}
    {found : Json}
    (present : find? key members = some found) :
    (key, found) ∈ members := by
  induction members with
  | nil =>
      cases present
  | cons member rest inductionHypothesis =>
      obtain ⟨name, value⟩ := member
      rw [find?] at present
      split at present
      · next named =>
        cases present
        rw [named]
        exact List.mem_cons_self
      · exact List.mem_cons_of_mem _ (inductionHypothesis present)

/-- A member of an object that was set is the new one, or was there before. -/
theorem mem_insert
    {key : String}
    {value : Json}
    {members : Members}
    {member : String × Json}
    (inside : member ∈ insert key value members) :
    member = (key, value) ∨ member ∈ members := by
  induction members with
  | nil =>
      simpa [insert] using inside
  | cons first rest inductionHypothesis =>
      obtain ⟨name, held⟩ := first
      rw [insert] at inside
      split at inside
      · exact List.mem_cons.mp inside
      · split at inside
        · rcases List.mem_cons.mp inside with new | later
          · exact .inl new
          · exact .inr (List.mem_cons_of_mem _ later)
        · rcases List.mem_cons.mp inside with first | later
          · exact .inr (List.mem_cons.mpr (.inl first))
          · exact (inductionHypothesis later).imp_right (List.mem_cons_of_mem _)

/-- Setting a member keeps the keys in order. -/
theorem Ordered.insert
    {members : Members}
    (ordered : members.Ordered)
    (key : String)
    (value : Json) :
    (Members.insert key value members).Ordered := by
  induction members with
  | nil =>
      exact ⟨by simp, trivial⟩
  | cons first rest inductionHypothesis =>
      obtain ⟨name, held⟩ := first
      obtain ⟨least, orderedRest⟩ := ordered
      rw [Members.insert]
      split
      · next before =>
        refine ⟨fun member inside => ?_, least, orderedRest⟩
        rcases List.mem_cons.mp inside with rfl | later
        · exact before
        · exact String.lt_trans before (least member later)
      · next notBefore =>
        split
        · next same =>
          exact ⟨same ▸ least, orderedRest⟩
        · next different =>
          refine ⟨fun member inside => ?_, inductionHypothesis orderedRest⟩
          rcases mem_insert inside with rfl | later
          · rcases Std.lt_trichotomy key name with before | same | after
            · exact absurd before notBefore
            · exact absurd same different
            · exact after
          · exact least member later

/-- Members that are made from pairs are in the order of their keys, whatever the pairs are. -/
theorem ordered_ofList (pairs : List (String × Json)) : (ofList pairs).Ordered := by
  have kept (members : Members) (ordered : members.Ordered) :
      (pairs.foldl (fun members pair => insert pair.1 pair.2 members) members).Ordered := by
    induction pairs generalizing members with
    | nil =>
        exact ordered
    | cons first rest inductionHypothesis =>
        exact inductionHypothesis _ (ordered.insert first.1 first.2)
  exact kept [] trivial

/-- A member that has just been set is the one that a lookup finds. -/
@[simp] theorem find?_insert_self
    (key : String)
    (value : Json)
    (members : Members) :
    find? key (insert key value members) = some value := by
  induction members with
  | nil => simp [insert, find?]
  | cons first rest inductionHypothesis =>
      obtain ⟨name, held⟩ := first
      by_cases before : key < name
      · simp [insert, find?, before]
      · by_cases same : key = name
        · simp [insert, find?, same]
        · have different : name ≠ key := fun equal => same equal.symm
          simp [insert, find?, before, same, different, inductionHypothesis]

/-- Setting a member leaves the lookups of all other keys as they were. -/
theorem find?_insert_of_ne
    {key other : String}
    (different : other ≠ key)
    (value : Json)
    (members : Members) :
    find? other (insert key value members) = find? other members := by
  have distinct : key ≠ other := fun equal => different equal.symm
  induction members with
  | nil => simp [insert, find?, distinct]
  | cons first rest inductionHypothesis =>
      obtain ⟨name, held⟩ := first
      by_cases before : key < name
      · simp [insert, find?, before, distinct]
      · by_cases same : key = name
        · subst same
          simp [insert, find?, distinct]
        · simp [insert, find?, before, same, inductionHypothesis]

/-- A member that is set twice holds what was set last. -/
theorem insert_insert_self
    (key : String)
    (value held : Json)
    (members : Members) :
    insert key value (insert key held members) = insert key value members := by
  induction members with
  | nil =>
      simp [insert]
  | cons first rest inductionHypothesis =>
      obtain ⟨name, old⟩ := first
      by_cases before : key < name
      · simp [insert, before]
      · by_cases same : key = name
        · simp [insert, same]
        · simp [insert, before, same, inductionHypothesis]

theorem insert_comm_of_lt
    {key other : String}
    (before : key < other)
    (value held : Json)
    (members : Members) :
    insert key value (insert other held members) =
      insert other held (insert key value members) := by
  have notAfter : ¬ other < key := String.lt_asymm before
  have distinct : other ≠ key := fun same => String.lt_irrefl key (same ▸ before)
  induction members with
  | nil =>
      simp [insert, before, notAfter, distinct]
  | cons first rest inductionHypothesis =>
      obtain ⟨name, old⟩ := first
      rcases Std.lt_trichotomy key name with inFront | rfl | behind
      · -- The lesser key goes in front, wherever the other one goes.
        by_cases otherInFront : other < name
        · simp [insert, inFront, otherInFront, before, notAfter, distinct]
        · by_cases otherHere : other = name
          · simp [insert, otherHere.symm, before, notAfter, distinct]
          · simp [insert, inFront, otherInFront, otherHere, notAfter, distinct]
      · simp [insert, notAfter, distinct]
      · have notInFront : ¬ key < name := String.lt_asymm behind
        have notHere : key ≠ name := fun same => String.lt_irrefl name (same ▸ behind)
        have otherBehind : name < other := String.lt_trans behind before
        have otherNotInFront : ¬ other < name := String.lt_asymm otherBehind
        have otherNotHere : other ≠ name := fun same =>
          String.lt_irrefl name (same ▸ otherBehind)
        simp [insert, notInFront, notHere, otherNotInFront, otherNotHere, inductionHypothesis]

/-- Members with different keys can be set in either order, also where the keys are not ordered. -/
theorem insert_comm
    {key other : String}
    (different : key ≠ other)
    (value held : Json)
    (members : Members) :
    insert key value (insert other held members) =
      insert other held (insert key value members) := by
  rcases Std.lt_trichotomy key other with before | same | after
  · exact insert_comm_of_lt before value held members
  · exact absurd same different
  · exact (insert_comm_of_lt after held value members).symm

end Members

namespace Json

/-- The object with one member. -/
def single (key : String) (value : Json) : Json :=
  .object [(key, value)]

/-- The object without members. -/
def emptyObject : Json :=
  .object []

/-- The number of a natural number of sixty-four bits. -/
def ofUInt64 (value : UInt64) : Json :=
  .number (.natural value)

/-- The number of a float; a float that is not finite has no JSON form and becomes `null`. -/
def ofFloat (value : Float) : Json :=
  if value.isFinite then .number (.float value) else .null

/-- The array of some strings. -/
def ofStrings (values : List String) : Json :=
  .array (values.map Json.string)

/-- An absent value is written as `null`. -/
def ofOption (value : Option Json) : Json :=
  value.getD .null

/-- A value that says nothing: `null`, an empty object or an empty array. -/
def isBlank : Json → Bool
  | .null => true
  | .object members => members.isEmpty
  | .array items => items.isEmpty
  | _ => false

/-- An optional value is there and says something. -/
def Said (held : Option Json) (value : Json) : Prop :=
  held = some value ∧ value ≠ .null ∧ value ≠ .object [] ∧ value ≠ .array []

/-- Leaving out what says nothing keeps exactly what is said. -/
theorem filter_isBlank_eq_some_iff
    {held : Option Json}
    {value : Json} :
    held.filter (fun value => !value.isBlank) = some value ↔ Said held value := by
  have speaks :
      value.isBlank = false ↔
        value ≠ .null ∧ value ≠ .object [] ∧ value ≠ .array [] := by
    cases value <;> simp [isBlank]
  simp [Said, Option.filter_eq_some_iff, speaks]

/-- Leaving out what says nothing leaves nothing if nothing is said. -/
theorem filter_isBlank_eq_none_iff {held : Option Json} :
    held.filter (fun value => !value.isBlank) = none ↔ ∀ value, ¬ Said held value := by
  rw [Option.eq_none_iff_forall_ne_some]
  exact forall_congr' fun value => not_congr filter_isBlank_eq_some_iff

/-- Look up a key in an object; every other value has no members. -/
def member? (key : String) : Json → Option Json
  | .object members => Members.find? key members
  | _ => none

/-- Follow a path of keys through nested objects. -/
def at? : List String → Json → Option Json
  | [], value => some value
  | key :: rest, value => (value.member? key).bind (at? rest)

@[simp] theorem at?_nil : at? [] = some :=
  funext fun _ => rfl

@[simp] theorem at?_cons_object
    (key : String)
    (path : List String)
    (members : Members) :
    at? (key :: path) (.object members) =
      (Members.find? key members).bind (at? path) :=
  rfl

@[simp] theorem at?_cons_single
    (key : String)
    (path : List String)
    (value : Json) :
    at? (key :: path) (single key value) = at? path value := by
  simp [single, Members.find?]

mutual

/-- Decide equality of two values. -/
def decideEq : (left right : Json) → Decidable (left = right)
  | .null, .null => isTrue rfl
  | .boolean left, .boolean right =>
      decidable_of_iff (left = right) (by simp)
  | .number left, .number right =>
      decidable_of_iff (left = right) (by simp)
  | .string left, .string right =>
      decidable_of_iff (left = right) (by simp)
  | .array left, .array right =>
      match decideEqItems left right with
      | isTrue same => isTrue (by rw [same])
      | isFalse differ => isFalse (by simpa using differ)
  | .object left, .object right =>
      match decideEqMembers left right with
      | isTrue same => isTrue (by rw [same])
      | isFalse differ => isFalse (by simpa using differ)
  | .null, .boolean _ | .null, .number _ | .null, .string _
  | .null, .array _ | .null, .object _
  | .boolean _, .null | .boolean _, .number _ | .boolean _, .string _
  | .boolean _, .array _ | .boolean _, .object _
  | .number _, .null | .number _, .boolean _ | .number _, .string _
  | .number _, .array _ | .number _, .object _
  | .string _, .null | .string _, .boolean _ | .string _, .number _
  | .string _, .array _ | .string _, .object _
  | .array _, .null | .array _, .boolean _ | .array _, .number _
  | .array _, .string _ | .array _, .object _
  | .object _, .null | .object _, .boolean _ | .object _, .number _
  | .object _, .string _ | .object _, .array _ => isFalse (by simp)

/-- Decide equality of the items of two arrays. -/
def decideEqItems : (left right : List Json) → Decidable (left = right)
  | [], [] => isTrue rfl
  | [], _ :: _ => isFalse (by simp)
  | _ :: _, [] => isFalse (by simp)
  | first :: rest, other :: others =>
      match decideEq first other with
      | isFalse differ => isFalse (by simp [differ])
      | isTrue same =>
          match decideEqItems rest others with
          | isFalse differ => isFalse (by simp [differ])
          | isTrue equal => isTrue (by rw [same, equal])

/-- Decide equality of the members of two objects. -/
def decideEqMembers : (left right : List (String × Json)) → Decidable (left = right)
  | [], [] => isTrue rfl
  | [], _ :: _ => isFalse (by simp)
  | _ :: _, [] => isFalse (by simp)
  | (key, value) :: rest, (name, held) :: others =>
      if sameKey : key = name then
        match decideEq value held with
        | isFalse differ => isFalse (by simp [differ])
        | isTrue same =>
            match decideEqMembers rest others with
            | isFalse differ => isFalse (by simp [differ])
            | isTrue equal => isTrue (by rw [sameKey, same, equal])
      else
        isFalse (by simp [sameKey])

end

instance : DecidableEq Json := decideEq

instance (held : Option Json) (value : Json) : Decidable (Said held value) :=
  inferInstanceAs (Decidable (_ ∧ _))

end Json

end Retrieval
