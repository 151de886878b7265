import Retrieval.Proofs.Drafting

namespace Retrieval

/-!
# The last strategy makes the query

Of the strategies of a draft the last one makes the whole query, from the draft
as it is in the end, and nothing but the query.  The rest of the request is what
the draft would compile to without any strategy.  So the default field has no
part in the request, and the free text, the filters and the other strategies have
none beyond what the last strategy makes of them.
-/

namespace Draft

variable {Strategy : Type}

theorem Call.entry?_strategies_eq_some_iff
    {call : Call Strategy}
    {strategy : Strategy} :
    call.entry? .strategies = some strategy ↔ call = .withStrategy strategy := by
  constructor
  · intro added
    cases call <;> cases added
    rfl
  · rintro rfl
    rfl

/-- A call that adds a strategy writes to no other slot. -/
theorem Call.entry?_withStrategy
    {slot : Slot}
    (beside : slot ≠ .strategies)
    (strategy : Strategy) :
    Call.entry? slot (.withStrategy strategy) = none := by
  cases slot with
  | strategies =>
      exact absurd rfl beside
  | _ =>
      rfl

/-- The calls that add no strategy, in their order. -/
def withoutStrategies (calls : List (Call Strategy)) : List (Call Strategy) :=
  calls.filter fun call => (call.entry? .strategies).isNone

theorem entries_withoutStrategies (calls : List (Call Strategy)) :
    entries .strategies (withoutStrategies calls) = [] := by
  apply List.filterMap_eq_nil_iff.mpr
  intro call member
  simpa using (List.mem_filter.mp member).2

/-- Beside the strategies, calls write the same with and without the strategies. -/
theorem entries_withoutStrategies_of_ne
    {slot : Slot}
    (beside : slot ≠ .strategies)
    (calls : List (Call Strategy)) :
    entries slot (withoutStrategies calls) = entries slot calls := by
  rw [entries, entries, withoutStrategies, List.filterMap_filter]
  congr
  funext call
  cases added : call.entry? .strategies with
  | none =>
      rfl
  | some strategy =>
      rw [Call.entry?_strategies_eq_some_iff.mp added]
      exact (Call.entry?_withStrategy beside strategy).symm

/-- Without the calls that add strategies a draft differs in its strategies alone. -/
theorem performAll_withoutStrategies
    (target : SearchTarget)
    (query : String)
    (calls : List (Call Strategy)) :
    ((start target query).performAll (withoutStrategies calls)).1 =
      { ((start target query).performAll calls).1 with strategies := [] } := by
  simp [performAll_fst, filled, entries_withoutStrategies, entries_withoutStrategies_of_ne, start]

/-- Calls that add strategies split at the last of them. -/
theorem exists_last_strategy
    {calls : List (Call Strategy)}
    (strategic : ∃ strategy, .withStrategy strategy ∈ calls) :
    ∃ earlier strategy later,
      calls = earlier ++ .withStrategy strategy :: later ∧
        (∀ other, .withStrategy other ∉ later) ∧
        (entries .strategies calls).getLast? = some strategy := by
  obtain ⟨added, member⟩ := strategic
  have written : added ∈ entries .strategies calls :=
    List.mem_filterMap.mpr ⟨_, member, rfl⟩
  obtain ⟨last, isLast⟩ : ∃ last, (entries .strategies calls).getLast? = some last :=
    ⟨_, List.getLast?_eq_some_getLast (List.ne_nil_of_mem written)⟩
  obtain ⟨front, shape⟩ := List.getLast?_eq_some_iff.mp isLast
  obtain ⟨before, after, rfl, _, closing⟩ := List.filterMap_eq_append_iff.mp shape
  obtain ⟨skipped, call, later, rfl, _, adds, nothing⟩ :=
    List.filterMap_eq_cons_iff.mp closing
  refine ⟨before ++ skipped, last, later, ?_, ?_, isLast⟩
  · rw [Call.entry?_strategies_eq_some_iff.mp adds, List.append_assoc]
  · intro other follows
    cases List.filterMap_eq_nil_iff.mp nothing _ follows

section

variable [QueryStrategy Strategy] {draft : Draft Strategy} {strategy : Strategy}

/-- With a strategy a draft compiles to what it would without, but for the query. -/
theorem compile_of_strategy
    (makesQuery : draft.strategies.getLast? = some strategy)
    (options : SearchOptions)
    (settings : CompileSettings) :
    draft.compile options settings =
      { ({ draft with strategies := [] } : Draft Strategy).compile options settings with
        query := .object [("bool", QueryStrategy.body strategy draft)] } := by
  have body : draft.queryBody settings.defaultField = QueryStrategy.body strategy draft := by
    rw [queryBody, strategy?, makesQuery]
  rw [compile, body]
  rfl

/-- The default field has no part in a query that a strategy makes. -/
theorem compile_defaultField_of_strategy
    (makesQuery : draft.strategies.getLast? = some strategy)
    (options : SearchOptions)
    (settings : CompileSettings)
    (defaultField : String) :
    draft.compile options { settings with defaultField := defaultField } =
      draft.compile options settings := by
  rw [compile_of_strategy makesQuery, compile_of_strategy makesQuery]
  rfl

/-- Drafts of which a strategy makes the same query, and which agree in the rest, compile alike. -/
theorem compile_congr_of_strategy
    {other : Draft Strategy}
    (makesQuery : draft.strategies.getLast? = some strategy)
    (makesOther : other.strategies.getLast? = some strategy)
    (sameRest :
      { other with
        query := draft.query
        filters := draft.filters
        strategies := draft.strategies } = draft)
    (sameQuery : QueryStrategy.body strategy other = QueryStrategy.body strategy draft)
    (options : SearchOptions)
    (settings : CompileSettings) :
    other.compile options settings = draft.compile options settings := by
  have plainCompiled :=
    congrArg (fun rest : Draft Strategy => ({ rest with strategies := [] } : Draft Strategy))
      sameRest
  rw [compile_of_strategy makesQuery, compile_of_strategy makesOther, sameQuery, ← plainCompiled]
  rfl

/--
For all calls on a new draft that add a strategy, every strategy and all options
and settings: the calls split at the last one that adds a strategy, and this
strategy makes the whole query from the draft as it is after all calls.  The rest
of the request is that of the draft that the other calls make without strategies.
The default field has no part in the request, and a draft with other free text,
filters and earlier strategies compiles to the same request if the last strategy
makes the same of it.
-/
theorem last_strategy_makes_query
    (target : SearchTarget)
    (query : String)
    (calls : List (Call Strategy))
    (strategic : ∃ strategy, .withStrategy strategy ∈ calls) :
    let draft := ((start target query).performAll calls).1
    let plain := ((start target query).performAll (withoutStrategies calls)).1
    ∃ earlier strategy later,
      calls = earlier ++ .withStrategy strategy :: later ∧
        (∀ other, .withStrategy other ∉ later) ∧
        draft.strategies.getLast? = some strategy ∧
        plain = { draft with strategies := [] } ∧
        (∀ options settings,
          draft.compile options settings =
            { plain.compile options settings with
              query := .object [("bool", QueryStrategy.body strategy draft)] }) ∧
        (∀ options settings defaultField,
          draft.compile options { settings with defaultField := defaultField } =
            draft.compile options settings) ∧
        ∀ other : Draft Strategy,
          other.strategies.getLast? = some strategy →
          { other with
            query := draft.query
            filters := draft.filters
            strategies := draft.strategies } = draft →
          QueryStrategy.body strategy other = QueryStrategy.body strategy draft →
          ∀ options settings,
            other.compile options settings = draft.compile options settings := by
  intro draft plain
  obtain ⟨earlier, strategy, later, shape, last, isLast⟩ := exists_last_strategy strategic
  have makesQuery : draft.strategies.getLast? = some strategy := by
    simpa [draft, performAll_fst, filled, start] using isLast
  have without : plain = { draft with strategies := [] } :=
    performAll_withoutStrategies target query calls
  refine ⟨earlier, strategy, later, shape, last, makesQuery, without, ?_, ?_, ?_⟩
  · intro options settings
    rw [without]
    exact compile_of_strategy makesQuery options settings
  · intro options settings defaultField
    exact compile_defaultField_of_strategy makesQuery options settings defaultField
  · intro other makesOther sameRest sameQuery options settings
    exact compile_congr_of_strategy makesQuery makesOther sameRest sameQuery options settings

end

/-- A strategy that asks for the free text in one field, and for the filters of the draft. -/
structure FieldSearch where
  field : String

instance : QueryStrategy FieldSearch where
  body strategy draft :=
    .object [
      ("filter", Json.ofOption draft.filters.toJson?),
      ("must", .object [("match", .object [(strategy.field, .string draft.query)])])]

/-- Calls that add two strategies, and after them a filter, a sort key and a limit. -/
def strategicCalls : List (Call FieldSearch) := [
  .withStrategy { field := "name" },
  .filter "brand" (.string "apple"),
  .withStrategy { field := "title" },
  .filterPresent "price",
  .sortBy "price" .descending,
  .take 5]

/-- The second strategy sees the filter that comes after it, and the limit stays. -/
theorem second_strategy_makes_query :
    let target : SearchTarget := { index := "shop", type := "products" }
    let draft := ((start target "phone").performAll strategicCalls).1
    let other : Draft FieldSearch := { draft with strategies := [{ field := "title" }] }
    (∃ strategy, .withStrategy strategy ∈ strategicCalls) ∧
      draft.build.query =
        .object [
          ("bool", .object [
            ("filter", .object [
              ("bool", .object [
                ("must", .array [
                  .object [("term", .object [("brand", .string "apple")])],
                  .object [("exists", .object [("field", .string "price")])]])])]),
            ("must", .object [("match", .object [("title", .string "phone")])])])] ∧
      draft.build.size = some 5 ∧
      draft.filters.must = [.term "brand" (.string "apple"), .present "price"] ∧
      other.build = draft.build := by
  intro target draft other
  have strategic : ∃ strategy, .withStrategy strategy ∈ strategicCalls :=
    ⟨{ field := "title" }, by simp [strategicCalls]⟩
  obtain ⟨_, strategy, _, _, _, isLast, _, compiled, _, depends⟩ :=
    last_strategy_makes_query target "phone" strategicCalls strategic
  obtain rfl : { field := "title" } = strategy :=
    Option.some.inj isLast
  refine ⟨strategic, ?_, ?_, rfl, ?_⟩
  · exact congrArg SearchRequest.query (compiled .unset .initial)
  · exact congrArg SearchRequest.size (compiled .unset .initial)
  · exact depends other rfl rfl rfl .unset .initial

end Draft

end Retrieval
