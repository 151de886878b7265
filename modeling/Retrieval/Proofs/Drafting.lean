import Retrieval.Query.Compile

namespace Retrieval

/-!
# Drafts after calls

A search is drafted by calls that are performed one after another.  Each call
writes to one slot of the draft, or to none.  Clauses, sort keys and strategies
gather in the order of their calls; of a limit, an offset, a callback and a flag
the last one stands.  Calls on different slots can therefore change places: a
draft depends on nothing but the calls on each of its slots.
-/

/-- The clause of a comparison, and whether it must or must not hold. -/
def Comparison.entry (field : String) (value : Json) : Comparison → Occurrence × Clause
  | .equal => (.must, .term field value)
  | .greater =>
      (.must,
        .range field { above := some value, atLeast := none, below := none, atMost := none })
  | .less =>
      (.must,
        .range field { above := none, atLeast := none, below := some value, atMost := none })
  | .greaterOrEqual =>
      (.must,
        .range field { above := none, atLeast := some value, below := none, atMost := none })
  | .lessOrEqual =>
      (.must,
        .range field { above := none, atLeast := none, below := none, atMost := some value })
  | .unequal => (.mustNot, .term field value)

/-- The texts that are symbols of comparisons. -/
def Comparison.symbols : List String :=
  ["=", ">", "<", ">=", "<=", "!=", "<>"]

/-- A symbol has the clause of its comparison, and a text that is no symbol has none. -/
def Comparison.symbolEntry? (field : String) (value : Json) :
    String → Option (Occurrence × Clause)
  | "=" => some (entry field value .equal)
  | ">" => some (entry field value .greater)
  | "<" => some (entry field value .less)
  | ">=" => some (entry field value .greaterOrEqual)
  | "<=" => some (entry field value .lessOrEqual)
  | "!=" | "<>" => some (entry field value .unequal)
  | _ => none

theorem Comparison.entry_eq
    (field : String)
    (value : Json)
    (comparison : Comparison) :
    comparison.entry field value = (comparison.occurrence, comparison.clause field value) := by
  cases comparison with
  | _ =>
      rfl

/-- The clause of a symbol is that of the comparison which is read from it. -/
theorem Comparison.symbolEntry?_eq (field symbol : String) (value : Json) :
    symbolEntry? field value symbol = (ofSymbol? symbol).map (entry field value) := by
  unfold symbolEntry? ofSymbol?
  split <;> simp

/-- A text has no comparison exactly if it is none of the symbols. -/
theorem Comparison.ofSymbol?_eq_none_iff (symbol : String) :
    ofSymbol? symbol = none ↔ symbol ∉ symbols := by
  unfold ofSymbol?
  split <;> simp_all [symbols]

namespace Draft

variable {Strategy : Type}

/-- Perform calls one after another, and gather what they have to say. -/
def performAll (draft : Draft Strategy) :
    List (Call Strategy) → Draft Strategy × List Notice
  | [] => (draft, [])
  | call :: rest =>
      let (next, said) := draft.perform call
      let (last, others) := next.performAll rest
      (last, said ++ others)

@[simp] theorem performAll_nil (draft : Draft Strategy) :
    draft.performAll [] = (draft, []) :=
  rfl

@[simp] theorem performAll_cons_fst
    (draft : Draft Strategy)
    (call : Call Strategy)
    (rest : List (Call Strategy)) :
    (draft.performAll (call :: rest)).1 = ((draft.perform call).1.performAll rest).1 :=
  rfl

/-- A filter by a symbol is one by its comparison, or nothing if it has none. -/
theorem filterBySymbol_fst
    (draft : Draft Strategy)
    (field symbol : String)
    (value : Json) :
    (draft.filterBySymbol field symbol value).1 =
      match Comparison.ofSymbol? symbol with
      | some comparison => draft.filterWith field comparison value
      | none => draft := by
  cases known : Comparison.ofSymbol? symbol with
  | some comparison =>
      simp [filterBySymbol, Comparison.ofSymbol, known]
  | none =>
      simp [filterBySymbol, Comparison.ofSymbol, known]

/-- A part of a draft that calls write to. -/
inductive Slot where
  | must
  | mustNot
  | sort
  | limit
  | offset
  | strategies
  | callback
  | debug
  | profile
  deriving Repr, DecidableEq

/-- What a call writes to a slot. -/
abbrev Slot.Entry (Strategy : Type) : Slot → Type
  | .must | .mustNot => Clause
  | .sort => SortKey
  | .limit | .offset => UInt64
  | .strategies => Strategy
  | .callback => Callback
  | .debug | .profile => Bool

namespace Call

/-- The clause that a call adds, and whether it must or must not hold. -/
def clause? : Call Strategy → Option (Occurrence × Clause)
  | .filter field value => some (.must, .term field value)
  | .filterWith field comparison value => some (comparison.entry field value)
  | .filterBySymbol field symbol value => Comparison.symbolEntry? field value symbol
  | .filterIn field values => some (.must, .terms field values)
  | .filterNotIn field values => some (.mustNot, .terms field values)
  | .filterBetween field low high =>
      some (.must,
        .range field
          { above := none, atLeast := some low, below := none, atMost := some high })
  | .filterNotBetween field low high =>
      some (.mustNot,
        .range field
          { above := none, atLeast := some low, below := none, atMost := some high })
  | .filterPresent field => some (.must, .present field)
  | .filterAbsent field => some (.mustNot, .present field)
  | .filterRegexp field pattern => some (.must, .regexp field pattern "ALL")
  | .filterRegexpWithFlags field pattern flags => some (.must, .regexp field pattern flags)
  | _ => none

/-- The clause that a call adds to one side of the filters. -/
def clauseOf? (occurrence : Occurrence) (call : Call Strategy) : Option Clause :=
  match call.clause? with
  | some (side, clause) => if side = occurrence then some clause else none
  | none => none

/-- What a call writes to a slot, if it writes to it at all. -/
def entry? : (slot : Slot) → Call Strategy → Option (slot.Entry Strategy)
  | .must, call => call.clauseOf? .must
  | .mustNot, call => call.clauseOf? .mustNot
  | .sort, .sortBy field direction => some { field := field, direction := direction }
  | .limit, .take limit => some limit
  | .offset, .skip offset => some offset
  | .strategies, .withStrategy strategy => some strategy
  | .callback, .withCallback callback => some callback
  | .debug, .setDebug enabled => some enabled
  | .profile, .setProfile enabled => some enabled
  | _, _ => none

/-- The notice about a filter whose text is no symbol. -/
def ignored? : Call Strategy → Option Notice
  | .filterBySymbol field symbol _ =>
      if symbol ∈ Comparison.symbols then
        none
      else
        some (.filterIgnored field (.invalidArgument (.unsupportedOperator symbol)))
  | _ => none

end Call

/-- What calls write to a slot, in the order of the calls. -/
def entries (slot : Slot) (calls : List (Call Strategy)) : List (slot.Entry Strategy) :=
  calls.filterMap (Call.entry? slot)

/-- The calls that write to a slot, in their order. -/
def callsOn (slot : Slot) (calls : List (Call Strategy)) : List (Call Strategy) :=
  calls.filter fun call => (call.entry? slot).isSome

/-- A draft with more entries in its slots: lists grow, and a single value is replaced. -/
def filled (draft : Draft Strategy) (calls : List (Call Strategy)) : Draft Strategy where
  target := draft.target
  query := draft.query
  filters :=
    { must := draft.filters.must ++ entries .must calls
      mustNot := draft.filters.mustNot ++ entries .mustNot calls }
  sort := draft.sort ++ entries .sort calls
  limit := (entries .limit calls).getLast?.or draft.limit
  offset := (entries .offset calls).getLast?.or draft.offset
  strategies := draft.strategies ++ entries .strategies calls
  callback := (entries .callback calls).getLast?.or draft.callback
  debug := (entries .debug calls).getLast?.getD draft.debug
  profile := (entries .profile calls).getLast?.getD draft.profile

/-- A single call writes its entry alone. -/
@[simp] theorem entries_singleton (slot : Slot) (call : Call Strategy) :
    entries slot [call] = (call.entry? slot).toList := by
  cases written : call.entry? slot with
  | none =>
      simp [entries, written]
  | some entry =>
      simp [entries, written]

theorem entries_cons
    (slot : Slot)
    (call : Call Strategy)
    (rest : List (Call Strategy)) :
    entries slot (call :: rest) = entries slot [call] ++ entries slot rest := by
  have split : call :: rest = [call] ++ rest := rfl
  rw [entries, split, List.filterMap_append]
  rfl

/-- What is written to a slot is written by the calls on it. -/
theorem entries_callsOn (slot : Slot) (calls : List (Call Strategy)) :
    entries slot (callsOn slot calls) = entries slot calls := by
  induction calls with
  | nil =>
      rfl
  | cons call rest inductionHypothesis =>
      rw [entries_cons, ← inductionHypothesis]
      cases written : call.entry? slot with
      | none =>
          simp [callsOn, entries, written]
      | some entry =>
          simp [callsOn, entries, written]

theorem filled_nil (draft : Draft Strategy) :
    draft.filled [] = draft := by
  simp [filled, entries]

/-- Slots are filled by one call after another. -/
theorem filled_cons
    (draft : Draft Strategy)
    (call : Call Strategy)
    (rest : List (Call Strategy)) :
    draft.filled (call :: rest) = (draft.filled [call]).filled rest := by
  simp [filled, entries_cons _ call rest, Option.or_assoc]

/-- A call that adds a clause writes to one side of the filters alone. -/
theorem restrict_eq_filled
    (draft : Draft Strategy)
    {call : Call Strategy}
    {occurrence : Occurrence}
    {clause : Clause}
    (added : call.clause? = some (occurrence, clause)) :
    draft.restrict occurrence clause = draft.filled [call] := by
  cases call with
  | sortBy | take | skip | withStrategy | withCallback | setDebug | setProfile =>
      cases added
  | _ =>
      cases occurrence with
      | must =>
          simp [restrict, filled, Call.entry?, Call.clauseOf?, added]
      | mustNot =>
          simp [restrict, filled, Call.entry?, Call.clauseOf?, added]

/-- A call writes its entry to its slot and leaves the other slots as they are. -/
theorem perform_fst (draft : Draft Strategy) (call : Call Strategy) :
    (draft.perform call).1 = draft.filled [call] := by
  cases call with
  | filterWith field comparison value =>
      refine draft.restrict_eq_filled ?_
      rw [Call.clause?, comparison.entry_eq]
  | filterBySymbol field symbol value =>
      rw [perform, filterBySymbol_fst]
      cases known : Comparison.ofSymbol? symbol with
      | some comparison =>
          refine draft.restrict_eq_filled ?_
          rw [Call.clause?, Comparison.symbolEntry?_eq, known, Option.map_some,
            comparison.entry_eq]
      | none =>
          have unwritten :
              (Call.filterBySymbol field symbol value : Call Strategy).clause? = none := by
            rw [Call.clause?, Comparison.symbolEntry?_eq, known, Option.map_none]
          simp [filled, Call.entry?, Call.clauseOf?, unwritten]
  | filter | filterIn | filterNotIn | filterBetween | filterNotBetween | filterPresent
  | filterAbsent | filterRegexp | filterRegexpWithFlags =>
      exact draft.restrict_eq_filled rfl
  | sortBy | take | skip | withStrategy | withCallback | setDebug | setProfile =>
      simp [perform, sortBy, take, skip, withStrategy, withCallback, setDebug, setProfile,
        filled, Call.entry?, Call.clauseOf?, Call.clause?]

/-- A call has something to say only if it is a filter whose text is no symbol. -/
theorem perform_snd (draft : Draft Strategy) (call : Call Strategy) :
    (draft.perform call).2 = call.ignored?.toList := by
  cases call with
  | filterBySymbol field symbol value =>
      have unknown := Comparison.ofSymbol?_eq_none_iff symbol
      by_cases listed : symbol ∈ Comparison.symbols
      · have present : Comparison.ofSymbol? symbol ≠ none :=
          fun absent => unknown.mp absent listed
        obtain ⟨comparison, known⟩ := Option.ne_none_iff_exists'.mp present
        simp [perform, filterBySymbol, Comparison.ofSymbol, known, Call.ignored?, listed]
      · have absent : Comparison.ofSymbol? symbol = none := unknown.mpr listed
        simp [perform, filterBySymbol, Comparison.ofSymbol, absent, Call.ignored?, listed]
  | _ =>
      rfl

/-- A filter that is ignored is warned about and writes to no slot. -/
theorem entry?_of_ignored
    {call : Call Strategy}
    {notice : Notice}
    (ignored : call.ignored? = some notice) :
    notice.severity = .warning ∧ ∀ slot, call.entry? slot = none := by
  cases call with
  | filterBySymbol field symbol value =>
      simp only [Call.ignored?] at ignored
      split at ignored
      · cases ignored
      · next unlisted =>
        obtain rfl := Option.some.inj ignored
        have unknown := (Comparison.ofSymbol?_eq_none_iff symbol).mpr unlisted
        refine ⟨rfl, fun slot => ?_⟩
        cases slot <;>
          simp [Call.entry?, Call.clauseOf?, Call.clause?, Comparison.symbolEntry?_eq, unknown]
  | _ =>
      cases ignored

/-- Calls that are performed one after another fill the slots with all that they write. -/
theorem performAll_fst (draft : Draft Strategy) (calls : List (Call Strategy)) :
    (draft.performAll calls).1 = draft.filled calls := by
  induction calls generalizing draft with
  | nil =>
      exact draft.filled_nil.symm
  | cons call rest inductionHypothesis =>
      rw [performAll_cons_fst, inductionHypothesis, perform_fst, ← filled_cons]

@[simp] theorem performAll_query
    (draft : Draft Strategy)
    (calls : List (Call Strategy)) :
    (draft.performAll calls).1.query = draft.query := by
  rw [performAll_fst]
  rfl

/-- Calls of which none adds a strategy do not change the strategies. -/
theorem performAll_strategies
    (draft : Draft Strategy)
    {calls : List (Call Strategy)}
    (plain : ∀ strategy, .withStrategy strategy ∉ calls) :
    (draft.performAll calls).1.strategies = draft.strategies := by
  have unwritten : entries .strategies calls = [] := by
    apply List.filterMap_eq_nil_iff.mpr
    intro call member
    cases call with
    | withStrategy strategy =>
        exact absurd member (plain strategy)
    | _ =>
        rfl
  rw [performAll_fst]
  simp [filled, unwritten]

/-- Each call says what it has to say when its turn comes. -/
theorem performAll_snd (draft : Draft Strategy) (calls : List (Call Strategy)) :
    (draft.performAll calls).2 = calls.filterMap Call.ignored? := by
  induction calls generalizing draft with
  | nil =>
      rfl
  | cons call rest inductionHypothesis =>
      have said :
          (draft.performAll (call :: rest)).2 =
            (draft.perform call).2 ++ ((draft.perform call).1.performAll rest).2 :=
        rfl
      rw [said, perform_snd, inductionHypothesis]
      cases ignored : call.ignored? with
      | none =>
          simp [ignored]
      | some notice =>
          simp [ignored]

/-- Only the calls on each slot matter to what a draft holds. -/
theorem filled_congr
    (draft : Draft Strategy)
    {calls others : List (Call Strategy)}
    (same : ∀ slot, callsOn slot calls = callsOn slot others) :
    draft.filled calls = draft.filled others := by
  have written (slot : Slot) :
      (entries slot calls : List (slot.Entry Strategy)) = entries slot others := by
    rw [← entries_callsOn, same, entries_callsOn]
  simp only [filled, written]

/--
For all calls on a new draft, each slot holds what the calls on it write: the
clauses, the sort keys and the strategies in the order of the calls, and of
every other slot the last value or the initial one.  A filter whose text is no
symbol writes nothing and is warned about once.  Other calls that are the same
on each slot, in whatever order across slots, make the same draft, which
compiles to the same request.
-/
theorem calls_fill_slots
    (target : SearchTarget)
    (query : String)
    (calls : List (Call Strategy)) :
    let drafted := (start target query).performAll calls
    drafted.1 =
        { target := target
          query := query
          filters := { must := entries .must calls, mustNot := entries .mustNot calls }
          sort := entries .sort calls
          limit := (entries .limit calls).getLast?
          offset := (entries .offset calls).getLast?
          strategies := entries .strategies calls
          callback := (entries .callback calls).getLast?
          debug := (entries .debug calls).getLast?.getD false
          profile := (entries .profile calls).getLast?.getD false } ∧
      drafted.2 = calls.filterMap Call.ignored? ∧
      (∀ call ∈ calls, ∀ notice,
        call.ignored? = some notice →
        notice.severity = .warning ∧ ∀ slot, call.entry? slot = none) ∧
      ∀ others : List (Call Strategy),
        (∀ slot, callsOn slot calls = callsOn slot others) →
        drafted.1 = ((start target query).performAll others).1 ∧
          ∀ [QueryStrategy Strategy] options settings,
            drafted.1.compile options settings =
              ((start target query).performAll others).1.compile options settings := by
  intro drafted
  refine ⟨?_, performAll_snd _ calls, fun call _ notice => entry?_of_ignored, ?_⟩
  · have filledFromStart : drafted.1 = (start target query).filled calls :=
      performAll_fst _ calls
    simp [filledFromStart, filled, start, Filters.empty]
  · intro others same
    have sameDraft : drafted.1 = ((start target query).performAll others).1 := by
      rw [performAll_fst, performAll_fst]
      exact filled_congr _ same
    refine ⟨sameDraft, fun options settings => ?_⟩
    rw [sameDraft]

/-- Calls on different slots, with two calls on the limit and two strategies among them. -/
def mixedCalls : List (Call Nat) := [
  .take 5,
  .filterBySymbol "sold" "<>" (.boolean true),
  .withStrategy 1,
  .filterBySymbol "name" "like" (.string "phone"),
  .filter "brand" (.string "apple"),
  .take 7,
  .withStrategy 2]

/-- The same calls, sorted by their slots. -/
def sortedCalls : List (Call Nat) := [
  .filterBySymbol "name" "like" (.string "phone"),
  .filter "brand" (.string "apple"),
  .filterBySymbol "sold" "<>" (.boolean true),
  .take 5,
  .take 7,
  .withStrategy 1,
  .withStrategy 2]

/-- Mixed calls and sorted ones make one draft, with the last limit and both strategies. -/
theorem mixed_calls_fill_as_sorted :
    let target : SearchTarget := { index := "shop", type := "products" }
    let mixed := (start target "phone").performAll mixedCalls
    let sorted := (start target "phone").performAll sortedCalls
    (∀ slot, callsOn slot mixedCalls = callsOn slot sortedCalls) ∧
      mixed.1 = sorted.1 ∧
      mixed.1.limit = some 7 ∧
      mixed.1.strategies = [1, 2] ∧
      mixed.1.filters.mustNot = [.term "sold" (.boolean true)] ∧
      mixed.2 =
        [.filterIgnored "name" (.invalidArgument (.unsupportedOperator "like"))] := by
  intro target mixed sorted
  have same : ∀ slot, callsOn slot mixedCalls = callsOn slot sortedCalls := by
    intro slot
    cases slot <;> rfl
  obtain ⟨held, said, _, reordered⟩ := calls_fill_slots target "phone" mixedCalls
  obtain ⟨sameDraft, _⟩ := reordered sortedCalls same
  refine ⟨same, sameDraft, ?_, ?_, ?_, said⟩
  · exact congrArg Draft.limit held
  · exact congrArg Draft.strategies held
  · exact congrArg (Filters.mustNot ∘ Draft.filters) held

end Draft

end Retrieval
