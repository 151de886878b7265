import Mathlib.Data.List.Basic
import Mathlib.Data.List.Forall2
import Retrieval.Results

namespace Retrieval

/-!
# What a view asks for and shows

For the records of a response a view asks for each identifier once, where it
first occurs.  A view that is restricted to some fields asks for these in the
same way, and for the key behind them; of a hit that is not loaded it shows the
stored fields with these names.  No names stand for all fields.
-/

/-- The items of a list, each of them once and in the order of their first occurrences. -/
structure FirstOccurrences (items kept : List String) : Prop where
  nodup : kept.Nodup
  mem_iff : ∀ item, item ∈ kept ↔ item ∈ items
  ordered : kept.Pairwise fun earlier later => items.idxOf earlier < items.idxOf later

namespace FirstOccurrences

variable {items kept : List String}

/-- No other list keeps the same items in the same order. -/
theorem eq_of_same
    {others : List String}
    (occurrences : FirstOccurrences items kept)
    (same : FirstOccurrences items others) :
    kept = others := by
  have reordered : kept.Perm others := by
    rw [List.perm_ext_iff_of_nodup occurrences.nodup same.nodup]
    intro item
    rw [occurrences.mem_iff, same.mem_iff]
  -- Of two items only one can occur first.
  refine reordered.eq_of_pairwise ?_ occurrences.ordered same.ordered
  intro first second _ _ before after
  exact absurd before (Nat.lt_asymm after)

/-- A new item in front comes first, and is not kept again. -/
theorem cons
    (occurrences : FirstOccurrences items kept)
    (first : String) :
    FirstOccurrences (first :: items) (first :: kept.filter fun item => item != first) := by
  -- Every other item now stands one place further behind.
  have later {item : String} (different : first ≠ item) :
      (first :: items).idxOf item = items.idxOf item + 1 :=
    List.idxOf_cons_ne items different
  constructor
  case nodup =>
    rw [List.nodup_cons]
    exact ⟨by simp, occurrences.nodup.filter _⟩
  case mem_iff =>
    intro item
    by_cases same : item = first
    · simp [same]
    · simp [same, occurrences.mem_iff]
  case ordered =>
    rw [List.pairwise_cons]
    constructor
    · intro item member
      have different : first ≠ item := by
        rintro rfl
        simp at member
      rw [later different, List.idxOf_cons_self]
      exact Nat.succ_pos _
    · -- Two kept items both differ from the first one, so their order is as it was.
      rw [List.pairwise_filter]
      refine occurrences.ordered.imp fun {one other} before oneDiffers otherDiffers => ?_
      rw [later (bne_iff_ne.mp oneDiffers).symm, later (bne_iff_ne.mp otherDiffers).symm]
      exact Nat.succ_lt_succ before

/-- Leaving out repetitions keeps the first occurrences. -/
theorem distinct (items : List String) :
    FirstOccurrences items (distinct items) := by
  induction items with
  | nil =>
      exact ⟨.nil, fun _ => Iff.rfl, .nil⟩
  | cons first rest inductionHypothesis =>
      exact inductionHypothesis.cons first

end FirstOccurrences

/-- An item at the end is kept there, unless it occurs before. -/
theorem distinct_append_singleton
    (items : List String)
    (last : String) :
    distinct (items ++ [last]) = distinct items ++ if last ∈ items then [] else [last] := by
  induction items with
  | nil =>
      simp [distinct]
  | cons first rest inductionHypothesis =>
      rw [List.cons_append, distinct, inductionHypothesis, List.filter_append, distinct]
      by_cases same : last = first
      · by_cases member : first ∈ rest <;> simp [same, member]
      · by_cases member : last ∈ rest <;> simp [same, member]

/-- A request for the records of a response, for results that show given fields. -/
structure Fetch.AsksFor
    (fetch : Fetch)
    (keyField : String)
    (fields : Option (List String))
    (response : Response) : Prop where
  keyName : fetch.keyName = keyField
  keys : FirstOccurrences response.ids fetch.keys
  unrestricted : fetch.columns = none ↔ fields = none ∨ fields = some []
  restricted :
    ∀ columns ∈ fetch.columns, ∀ names ∈ fields,
      columns.Nodup ∧
        ∃ kept,
          FirstOccurrences names kept ∧
            columns = kept ++ if keyField ∈ names then [] else [keyField]

/-- A result shows of a hit the stored fields that are wanted; no names stand for all of them. -/
inductive Hit.ShowsStored
    {Record : Type}
    (hit : Hit)
    (fields : Option (List String)) :
    ResultItem Record → Prop where
  | all
      (unrestricted : fields = none ∨ fields = some []) :
      ShowsStored hit fields (.stored hit.source)
  | named
      {names : List String}
      (restricted : fields = some names)
      (nonempty : names ≠ []) :
      ShowsStored hit fields (.stored (hit.source.filter fun member => member.1 ∈ names))

namespace ResultView

variable {view : ResultView}

theorem restriction?_eq_none_iff :
    view.restriction? = none ↔ view.fields = none ∨ view.fields = some [] := by
  cases asked : view.fields with
  | none =>
      simp [restriction?, asked]
  | some names =>
      cases names <;> simp [restriction?, asked, Option.filter]

theorem restriction?_eq_some_iff {names : List String} :
    view.restriction? = some names ↔ view.fields = some names ∧ names ≠ [] := by
  simp [restriction?, Option.filter_eq_some_iff]

theorem columns_eq_none_iff {keyField : String} :
    view.columns keyField = none ↔ view.fields = none ∨ view.fields = some [] := by
  rw [columns, Option.map_eq_none_iff, restriction?_eq_none_iff]

/-- The fields that are fetched are those that are shown, and the key behind them if it is new. -/
theorem columns_of_restricted
    {keyField : String}
    {names : List String}
    (restricted : view.fields = some names)
    (nonempty : names ≠ []) :
    view.columns keyField =
      some (distinct names ++ if keyField ∈ names then [] else [keyField]) := by
  rw [columns, restriction?_eq_some_iff.mpr ⟨restricted, nonempty⟩, Option.map_some,
    distinct_append_singleton]

/-- A view asks for the records of a response. -/
theorem fetch_asksFor
    (view : ResultView)
    (keyField : String)
    (response : Response) :
    (view.fetch keyField response).AsksFor keyField view.fields response := by
  constructor
  case keyName =>
    rfl
  case keys =>
    exact .distinct response.ids
  case unrestricted =>
    exact columns_eq_none_iff
  case restricted =>
    intro columns asked names restricted
    have asks : view.columns keyField = some columns := asked
    have nonempty : names ≠ [] := by
      rintro rfl
      rw [columns_eq_none_iff.mpr (.inr restricted)] at asks
      cases asks
    rw [columns_of_restricted restricted nonempty] at asks
    cases asks
    refine ⟨?_, distinct names, .distinct names, rfl⟩
    rw [← distinct_append_singleton]
    exact nodup_distinct _

section

variable {keyField : String} {response : Response} {fetch : Fetch}

/-- A request asks for no other fields than the view does. -/
theorem columns_eq_of_asksFor
    (asks : fetch.AsksFor keyField view.fields response) :
    fetch.columns = view.columns keyField := by
  cases asked : fetch.columns with
  | none =>
      rw [columns_eq_none_iff.mpr (asks.unrestricted.mp asked)]
  | some columns =>
      have restricted : ¬ (view.fields = none ∨ view.fields = some []) := by
        rw [← asks.unrestricted, asked]
        simp
      cases given : view.fields with
      | none =>
          exact absurd (.inl given) restricted
      | some names =>
          have nonempty : names ≠ [] := by
            rintro rfl
            exact restricted (.inr given)
          obtain ⟨_, kept, occurrences, rfl⟩ := asks.restricted columns asked names given
          rw [columns_of_restricted given nonempty, occurrences.eq_of_same (.distinct names)]

/-- There is one way to ask for the records of a response. -/
theorem asksFor_iff :
    fetch.AsksFor keyField view.fields response ↔ fetch = view.fetch keyField response := by
  constructor
  · intro asks
    have keys : fetch.keys = distinct response.ids :=
      asks.keys.eq_of_same (.distinct response.ids)
    calc
      fetch = ⟨fetch.keyName, fetch.keys, fetch.columns⟩ := rfl
      _ = ⟨keyField, distinct response.ids, view.columns keyField⟩ := by
        rw [asks.keyName, keys, columns_eq_of_asksFor asks]
  · rintro rfl
    exact view.fetch_asksFor keyField response

end

section

variable {Record : Type}

/-- A view shows the stored fields of a hit in one way. -/
theorem showsStored_iff
    {hit : Hit}
    {item : ResultItem Record} :
    hit.ShowsStored view.fields item ↔ .stored (view.storedFields hit) = item := by
  cases asked : view.restriction? with
  | none =>
      have unrestricted := restriction?_eq_none_iff.mp asked
      have all : view.storedFields hit = hit.source := by
        rw [storedFields, asked]
      rw [all]
      constructor
      · rintro (_ | ⟨given, nonempty⟩)
        · rfl
        · simp [given, nonempty] at unrestricted
      · rintro rfl
        exact .all unrestricted
  | some names =>
      obtain ⟨restricted, nonempty⟩ := restriction?_eq_some_iff.mp asked
      have named :
          view.storedFields hit = hit.source.filter fun member => member.1 ∈ names := by
        simp [storedFields, asked]
      rw [named]
      constructor
      · rintro (unrestricted | ⟨given, _⟩)
        · simp [restricted, nonempty] at unrestricted
        · rw [restricted] at given
          cases given
          rfl
      · rintro rfl
        exact .named restricted nonempty

theorem forall_showsStored_iff
    {hits : List Hit}
    {items : List (ResultItem Record)} :
    List.Forall₂ (fun hit item => hit.ShowsStored view.fields item) hits items ↔
      (hits.map fun hit => .stored (view.storedFields hit)) = items := by
  simp only [showsStored_iff]
  rw [← List.forall₂_map_left_iff (R := Eq), List.forall₂_eq_eq_eq]

end

end ResultView

end Retrieval
