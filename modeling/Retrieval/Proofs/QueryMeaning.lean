import Retrieval.Proofs.Drafting
import Retrieval.Proofs.QueryLanguage
import Retrieval.Query.Compile

namespace Retrieval

/-!
# A compiled query means what was asked

Every call that filters asks something of a document.  A draft that is compiled
without a strategy becomes a query that a document meets exactly if it matches
the free text and meets what each call asked, in whatever order the calls were
made and however the clauses were joined.
-/

variable {Document Strategy : Type}

/-- What a comparison asks of the value of a field. -/
def Comparison.Asks
    (interpretation : Interpretation Document)
    (document : Document)
    (field : String)
    (value : Json) :
    Comparison → Prop
  | .equal => interpretation.term field value document
  | .greater => interpretation.range field (some value) none none none document
  | .less => interpretation.range field none none (some value) none document
  | .greaterOrEqual => interpretation.range field none (some value) none none document
  | .lessOrEqual => interpretation.range field none none none (some value) document
  | .unequal => ¬ interpretation.term field value document

/-- What a symbol asks of the value of a field; an unknown symbol asks nothing. -/
def Comparison.SymbolAsks
    (interpretation : Interpretation Document)
    (document : Document)
    (field : String)
    (value : Json) :
    String → Prop
  | "=" => interpretation.term field value document
  | ">" => interpretation.range field (some value) none none none document
  | "<" => interpretation.range field none none (some value) none document
  | ">=" => interpretation.range field none (some value) none none document
  | "<=" => interpretation.range field none none none (some value) document
  | "!=" | "<>" => ¬ interpretation.term field value document
  | _ => True

/-- A symbol asks what its comparison asks, if it has one. -/
theorem Comparison.symbolAsks_iff
    (interpretation : Interpretation Document)
    (document : Document)
    (field symbol : String)
    (value : Json) :
    SymbolAsks interpretation document field value symbol ↔
      ∀ comparison,
        ofSymbol? symbol = some comparison →
        comparison.Asks interpretation document field value := by
  unfold SymbolAsks ofSymbol?
  split <;> simp [Asks]

namespace Draft

/-- What a call asks of a document; a call that does not filter asks nothing. -/
def Call.Asks
    (interpretation : Interpretation Document)
    (document : Document) :
    Call Strategy → Prop
  | .filter field value => interpretation.term field value document
  | .filterWith field comparison value =>
      comparison.Asks interpretation document field value
  | .filterBySymbol field symbol value =>
      Comparison.SymbolAsks interpretation document field value symbol
  | .filterIn field values => interpretation.terms field values document
  | .filterNotIn field values => ¬ interpretation.terms field values document
  | .filterBetween field low high =>
      interpretation.range field none (some low) none (some high) document
  | .filterNotBetween field low high =>
      ¬ interpretation.range field none (some low) none (some high) document
  | .filterPresent field => interpretation.present field document
  | .filterAbsent field => ¬ interpretation.present field document
  | .filterRegexp field pattern => interpretation.regexp field pattern "ALL" document
  | .filterRegexpWithFlags field pattern flags =>
      interpretation.regexp field pattern flags document
  | _ => True

section

variable (interpretation : Interpretation Document) (document : Document)

/-- One more clause asks what its occurrence makes of it. -/
theorem hold_restrict
    (draft : Draft Strategy)
    (occurrence : Occurrence)
    (clause : Clause) :
    (draft.restrict occurrence clause).filters.Hold interpretation document ↔
      draft.filters.Hold interpretation document ∧
        occurrence.Asks interpretation document clause := by
  cases occurrence with
  | must =>
      simp only [restrict, Filters.push_must, Filters.Hold, List.forall_mem_append,
        List.forall_mem_singleton]
      exact and_right_comm
  | mustNot =>
      simp only [restrict, Filters.push_mustNot, Filters.Hold, List.forall_mem_append,
        List.forall_mem_singleton]
      exact and_assoc.symm

theorem hold_filterWith
    (draft : Draft Strategy)
    (field : String)
    (comparison : Comparison)
    (value : Json) :
    (draft.filterWith field comparison value).filters.Hold interpretation document ↔
      draft.filters.Hold interpretation document ∧
        comparison.Asks interpretation document field value := by
  cases comparison with
  | _ =>
      exact hold_restrict interpretation document draft _ _

/-- The filters after a call hold exactly if those before hold and what it asks does. -/
theorem hold_perform
    (draft : Draft Strategy)
    (call : Call Strategy) :
    (draft.perform call).1.filters.Hold interpretation document ↔
      draft.filters.Hold interpretation document ∧ call.Asks interpretation document := by
  cases call with
  | filterWith field comparison value =>
      exact hold_filterWith interpretation document draft field comparison value
  | filterBySymbol field symbol value =>
      rw [Call.Asks, Comparison.symbolAsks_iff]
      simp only [perform, filterBySymbol_fst]
      cases Comparison.ofSymbol? symbol with
      | some comparison =>
          simpa using hold_filterWith interpretation document draft field comparison value
      | none =>
          simp
  | filter | filterIn | filterNotIn | filterBetween | filterNotBetween | filterPresent
  | filterAbsent | filterRegexp | filterRegexpWithFlags =>
      exact hold_restrict interpretation document draft _ _
  | sortBy | take | skip | withStrategy | withCallback | setDebug | setProfile =>
      exact (and_iff_left trivial).symm

/-- The filters after calls hold exactly if those before hold and what each asks does. -/
theorem hold_performAll
    (draft : Draft Strategy)
    (calls : List (Call Strategy)) :
    (draft.performAll calls).1.filters.Hold interpretation document ↔
      draft.filters.Hold interpretation document ∧
        ∀ call ∈ calls, call.Asks interpretation document := by
  induction calls generalizing draft with
  | nil =>
      simp
  | cons call rest inductionHypothesis =>
      rw [performAll_cons_fst, inductionHypothesis, hold_perform, List.forall_mem_cons,
        and_assoc]

end

end Draft

namespace Condition

/-- The query for free text means a match in the default field, if there is any text. -/
theorem means_text (defaultField text : String) :
    ∃ members,
      textQuery defaultField text = .object members ∧
        Means (ofJson? (.object members)) fun _ interpretation document =>
          text = "" ∨ interpretation.text defaultField text document := by
  by_cases empty : text = ""
  · subst empty
    refine ⟨[("match_all", Json.emptyObject)], rfl, .always, ?_, ?_⟩
    · simp [ofJson?, ofLeaf?, Json.emptyObject]
    · simp [Holds]
  · refine
      ⟨[("match", Json.single defaultField (.string text))], ?_,
        .text defaultField text, ?_, ?_⟩
    · simp [textQuery, empty, Json.single]
    · simp [ofJson?, ofLeaf?, Json.single]
    · simp [Holds, empty]

/-- The query of a draft without a strategy means its filters and its free text. -/
theorem means_standardBody
    (draft : Draft Strategy)
    (defaultField : String) :
    Means (ofJson? (Json.single "bool" (draft.standardBody defaultField)))
      fun _ interpretation document =>
        draft.filters.Hold interpretation document ∧
          (draft.query = "" ∨ interpretation.text defaultField draft.query document) := by
  obtain ⟨members, written, meansText⟩ := means_text defaultField draft.query
  have asked := means_filters draft.filters (means_cons (.inl rfl) meansText means_nil)
  rw [← ofJson?_bool, ← written] at asked
  obtain ⟨condition, read, tells⟩ := asked
  exact ⟨condition, read, by simpa using tells⟩

end Condition

namespace Draft

/--
For all calls of which none adds a strategy, and for all options and settings,
the compiled query is read as a condition.  Under every interpretation of the
questions about single fields, a document meets it exactly if there is no free
text or the document matches it in the default field, and the document meets
what each call asks.
-/
theorem compiled_query_asks_all
    [QueryStrategy Strategy]
    (target : SearchTarget)
    (text : String)
    (calls : List (Call Strategy))
    (plain : ∀ strategy, .withStrategy strategy ∉ calls)
    (options : SearchOptions)
    (settings : CompileSettings) :
    let draft := ((start target text).performAll calls).1
    ∃ condition,
      Condition.ofJson? (draft.compile options settings).query = some condition ∧
        ∀ Document (interpretation : Interpretation Document) document,
          condition.Holds interpretation document ↔
            (text = "" ∨ interpretation.text settings.defaultField text document) ∧
              ∀ call ∈ calls, call.Asks interpretation document := by
  intro draft
  have free : draft.strategy? = none := by
    rw [strategy?, performAll_strategies _ plain]
    rfl
  have body :
      (draft.compile options settings).query =
        Json.single "bool" (draft.standardBody settings.defaultField) := by
    simp only [compile, queryBody, free]
  obtain ⟨condition, read, tells⟩ :=
    Condition.means_standardBody draft settings.defaultField
  refine ⟨condition, body ▸ read, fun Document interpretation document => ?_⟩
  have asked :
      draft.filters.Hold interpretation document ↔
        ∀ call ∈ calls, call.Asks interpretation document := by
    refine (hold_performAll interpretation document (start target text) calls).trans ?_
    simp [start]
  have sameText : draft.query = text := performAll_query _ calls
  calc
    condition.Holds interpretation document ↔
        draft.filters.Hold interpretation document ∧
          (draft.query = "" ∨
            interpretation.text settings.defaultField draft.query document) :=
      tells Document interpretation document
    _ ↔ _ := by
      rw [asked, sameText, and_comm]

/-- Where there are no strategies, none makes up a query. -/
instance : QueryStrategy Empty where
  body := nofun

/-- Documents as their fields, of which single values can be compared. -/
def heldFields : Interpretation Members where
  text _ _ _ := False
  term field value members := Members.find? field members = some value
  terms _ _ _ := False
  range _ _ _ _ _ _ := False
  present field members := Members.find? field members ≠ none
  regexp _ _ _ _ := False

/-- A search for what is unequal leaves out the documents that are equal. -/
theorem compiled_unequal_leaves_out :
    let calls : List (Call Empty) := [.filterBySymbol "sold" "<>" (.boolean true)]
    let draft := ((start { index := "shop", type := "products" } "").performAll calls).1
    (∀ strategy, .withStrategy strategy ∉ calls) ∧
      ∃ condition,
        Condition.ofJson?
            (draft.compile SearchOptions.unset CompileSettings.initial).query =
          some condition ∧
        condition.Holds heldFields [("sold", .boolean false)] ∧
        ¬ condition.Holds heldFields [("sold", .boolean true)] := by
  intro calls draft
  have plain : ∀ strategy, .withStrategy strategy ∉ calls :=
    nofun
  obtain ⟨condition, read, tells⟩ :=
    compiled_query_asks_all { index := "shop", type := "products" } "" calls plain
      SearchOptions.unset CompileSettings.initial
  refine ⟨plain, condition, read, ?_, ?_⟩
  · rw [tells]
    simp [calls, Call.Asks, Comparison.SymbolAsks, heldFields, Members.find?]
  · rw [tells]
    simp [calls, Call.Asks, Comparison.SymbolAsks, heldFields, Members.find?]

end Draft

end Retrieval
