import Retrieval.Proofs.QueryMeaning

namespace Retrieval

/-!
# The document of a search tells it from every other

A compiled search is one JSON document.  Each part of a draft is read from that
document at a path of its own, where a part that asks for nothing leaves no key.
What is read there determines the part, so two drafts without strategies have
the same document exactly if they agree in all that a search can ask for.
-/

attribute [ext] Filters SearchTarget

namespace Json

/-- What is written for a list: an array, or nothing if there are no items. -/
def listed? (write : α → Json) (items : List α) : Option Json :=
  if items.isEmpty then none else some (.array (items.map write))

theorem listed?_isSome_iff
    {write : α → Json}
    {items : List α} :
    (listed? write items).isSome = true ↔ items ≠ [] := by
  cases items with
  | nil =>
      simp [listed?]
  | cons first rest =>
      simp [listed?]

/-- Lists whose items are told apart are told apart, the empty list included. -/
theorem listed?_injective
    {write : α → Json}
    (distinguishes : Function.Injective write) :
    Function.Injective (listed? write) := by
  intro left right same
  cases left with
  | nil =>
      cases right with
      | nil =>
          rfl
      | cons first rest =>
          simp [listed?] at same
  | cons first rest =>
      cases right with
      | nil =>
          simp [listed?] at same
      | cons other others =>
          have items :
              (first :: rest).map write = (other :: others).map write := by
            simpa [listed?] using same
          exact (List.map_inj_right fun _ _ alike => distinguishes alike).mp items

theorem ofUInt64_injective : Function.Injective ofUInt64 := by
  intro left right same
  simpa [ofUInt64] using same

end Json

namespace Clause

/-- Different clauses are written differently; a bound of `null` is not a missing one. -/
theorem toJson_injective : Function.Injective toJson := by
  intro left right same
  -- A clause is read back from what is written for it.
  have read := congrArg Condition.ofJson? same
  simpa using read

end Clause

namespace SortKey

theorem toJson_injective : Function.Injective toJson := by
  rintro ⟨field, direction⟩ ⟨otherField, otherDirection⟩ same
  simp only [toJson, Json.single, Direction.toJson, Json.object.injEq, List.cons.injEq,
    Prod.mk.injEq, Json.string.injEq, and_true] at same
  obtain ⟨rfl, words⟩ := same
  cases direction <;> cases otherDirection <;> simp [Direction.word] at words ⊢

end SortKey

namespace Filters

/-- The clauses of one occurrence. -/
def clauses (filters : Filters) : Occurrence → List Clause
  | .must => filters.must
  | .mustNot => filters.mustNot

/-- The clauses of each occurrence are found under its own key. -/
theorem at?_toJson?
    (filters : Filters)
    (occurrence : Occurrence) :
    filters.toJson?.bind (Json.at? ["bool", occurrence.key]) =
      Json.listed? Clause.toJson (filters.clauses occurrence) := by
  obtain ⟨must, mustNot⟩ := filters
  cases must <;> cases mustNot <;> cases occurrence <;>
    simp [toJson?, isEmpty, side, clauses, Json.listed?, Occurrence.key, Members.find?]

theorem toJson?_isSome_iff (filters : Filters) :
    filters.toJson?.isSome = true ↔ filters.must ≠ [] ∨ filters.mustNot ≠ [] := by
  obtain ⟨must, mustNot⟩ := filters
  cases must <;> cases mustNot <;> simp [toJson?, isEmpty]

end Filters

theorem textQuery_injective (defaultField : String) :
    Function.Injective (textQuery defaultField) := by
  intro left right same
  by_cases noLeft : left = ""
  · by_cases noRight : right = ""
    · rw [noLeft, noRight]
    · simp [textQuery, noLeft, noRight, Json.single] at same
  · by_cases noRight : right = ""
    · simp [textQuery, noLeft, noRight, Json.single] at same
    · simpa [textQuery, noLeft, noRight, Json.single] using same

namespace SearchRequest

variable (request : SearchRequest)

theorem at?_body (path : List String) :
    Json.at? ("body" :: path) request.toJson = Json.at? path request.body := by
  simp [toJson, Members.find?]

theorem at?_query (path : List String) :
    Json.at? ("query" :: path) request.body = Json.at? path request.query := by
  simp [body, Members.find?]

/-- The sort order stands under one key, if there is one. -/
theorem find?_sortMember
    (key : String)
    (sort : List SortKey) :
    Members.find? key (sortMember sort) =
      if "sort" = key then Json.listed? SortKey.toJson sort else none := by
  cases sort with
  | nil =>
      simp [sortMember, Members.find?, Json.listed?]
  | cons first rest =>
      simp [sortMember, Members.find?, Json.listed?]

theorem at?_sort :
    Json.at? ["sort"] request.body = Json.listed? SortKey.toJson request.sort := by
  simp [body, Members.find?, Members.find?_append, Members.find?_optional, find?_sortMember]

theorem at?_size :
    Json.at? ["size"] request.body = request.size.map Json.ofUInt64 := by
  simp [body, Members.find?, Members.find?_append, Members.find?_optional, find?_sortMember]

theorem at?_from :
    Json.at? ["from"] request.body = request.start.map Json.ofUInt64 := by
  simp [body, Members.find?, Members.find?_append, Members.find?_optional, find?_sortMember]

end SearchRequest

namespace Draft

variable {Strategy : Type} (draft : Draft Strategy)

theorem at?_filter (defaultField : String) (path : List String) :
    Json.at? ("filter" :: path) (draft.standardBody defaultField) =
      draft.filters.toJson?.bind (Json.at? path) := by
  cases written : draft.filters.toJson? with
  | none =>
      simp [standardBody, written, Members.find?]
  | some filters =>
      simp [standardBody, written, Members.find?]

theorem at?_must (defaultField : String) :
    Json.at? ["must"] (draft.standardBody defaultField) =
      some (textQuery defaultField draft.query) := by
  cases written : draft.filters.toJson? with
  | none =>
      simp [standardBody, written, Members.find?]
  | some filters =>
      simp [standardBody, written, Members.find?]

variable [QueryStrategy Strategy] (settings : CompileSettings)

/-- The document of a draft that is compiled without options. -/
def document : Json :=
  (draft.compile { limit := none, page := none } settings).toJson

theorem at?_document_bool
    {draft : Draft Strategy}
    (plain : draft.strategies = [])
    (path : List String) :
    Json.at? ("body" :: "query" :: "bool" :: path) (draft.document settings) =
      Json.at? path (draft.standardBody settings.defaultField) := by
  have body : draft.queryBody settings.defaultField = draft.standardBody settings.defaultField := by
    simp [queryBody, strategy?, plain]
  rw [document, SearchRequest.at?_body, SearchRequest.at?_query]
  simp [compile, body]

/-- The clauses of an occurrence stand at a path of their own. -/
theorem at?_document_clauses
    {draft : Draft Strategy}
    (plain : draft.strategies = [])
    (occurrence : Occurrence) :
    Json.at? ["body", "query", "bool", "filter", "bool", occurrence.key]
        (draft.document settings) =
      Json.listed? Clause.toJson (draft.filters.clauses occurrence) := by
  rw [at?_document_bool settings plain, at?_filter, Filters.at?_toJson?]

theorem at?_document_sort :
    Json.at? ["body", "sort"] (draft.document settings) =
      Json.listed? SortKey.toJson draft.sort := by
  rw [document, SearchRequest.at?_body, SearchRequest.at?_sort]
  rfl

/-- What is read from a document determines every part of its draft. -/
theorem eq_of_document_eq
    {left right : Draft Strategy}
    (plainLeft : left.strategies = [])
    (plainRight : right.strategies = [])
    (same : left.document settings = right.document settings) :
    left.target = right.target ∧
      left.query = right.query ∧
      (∀ occurrence, left.filters.clauses occurrence = right.filters.clauses occurrence) ∧
      left.sort = right.sort ∧
      left.limit = right.limit ∧
      left.offset = right.offset := by
  have read (path : List String) :
      Json.at? path (left.document settings) = Json.at? path (right.document settings) :=
    congrArg (Json.at? path) same
  have target : left.target = right.target := by
    have index := read ["index"]
    have type := read ["type"]
    simp only [document, compile, SearchRequest.toJson, Json.at?_cons_object, Members.find?,
      Json.at?_nil, ↓reduceIte, String.reduceEq, Option.bind_some, Option.some.injEq,
      Json.string.injEq] at index type
    exact SearchTarget.ext index type
  have query : left.query = right.query := by
    have text := read ["body", "query", "bool", "must"]
    rw [at?_document_bool settings plainLeft, at?_document_bool settings plainRight, at?_must,
      at?_must] at text
    exact textQuery_injective settings.defaultField (Option.some.inj text)
  have clauses (occurrence : Occurrence) :
      left.filters.clauses occurrence = right.filters.clauses occurrence := by
    have written := read ["body", "query", "bool", "filter", "bool", occurrence.key]
    rw [at?_document_clauses settings plainLeft, at?_document_clauses settings plainRight]
      at written
    exact Json.listed?_injective Clause.toJson_injective written
  have sort : left.sort = right.sort := by
    have written := read ["body", "sort"]
    rw [at?_document_sort, at?_document_sort] at written
    exact Json.listed?_injective SortKey.toJson_injective written
  have limit : left.limit = right.limit := by
    have size := read ["body", "size"]
    simp only [document, SearchRequest.at?_body, SearchRequest.at?_size] at size
    exact Option.map_injective Json.ofUInt64_injective size
  have offset : left.offset = right.offset := by
    have start := read ["body", "from"]
    simp only [document, SearchRequest.at?_body, SearchRequest.at?_from] at start
    exact Option.map_injective Json.ofUInt64_injective start
  exact ⟨target, query, clauses, sort, limit, offset⟩

/-- A document depends on nothing of its draft but what a search can ask for. -/
theorem document_congr
    {left right : Draft Strategy}
    (plainLeft : left.strategies = [])
    (plainRight : right.strategies = [])
    (target : left.target = right.target)
    (query : left.query = right.query)
    (filters : left.filters = right.filters)
    (sort : left.sort = right.sort)
    (limit : left.limit = right.limit)
    (offset : left.offset = right.offset) :
    left.document settings = right.document settings := by
  have body : left.queryBody settings.defaultField = right.queryBody settings.defaultField := by
    simp [queryBody, strategy?, plainLeft, plainRight, standardBody, filters, query]
  simp [document, compile, SearchRequest.toJson, SearchRequest.body, body, target, sort,
    windowSize, windowStart, limit, offset]

/--
For all drafts without strategies that are compiled with the same settings and
no options, the documents are the same exactly if the drafts have the same
target, free text, clauses of either occurrence, sort order and window.  The
filter, either occurrence in it and the sort order have a key exactly if there
is something under it.
-/
theorem document_eq_iff :
    (∀ left right : Draft Strategy,
      left.strategies = [] →
      right.strategies = [] →
      (left.document settings = right.document settings ↔
        left.target = right.target ∧
          left.query = right.query ∧
          left.filters.must = right.filters.must ∧
          left.filters.mustNot = right.filters.mustNot ∧
          left.sort = right.sort ∧
          left.limit = right.limit ∧
          left.offset = right.offset)) ∧
      ∀ draft : Draft Strategy,
        draft.strategies = [] →
        ((Json.at? ["body", "query", "bool", "filter"] (draft.document settings)).isSome ↔
            draft.filters.must ≠ [] ∨ draft.filters.mustNot ≠ []) ∧
          ((Json.at? ["body", "query", "bool", "filter", "bool", "must"]
              (draft.document settings)).isSome ↔ draft.filters.must ≠ []) ∧
          ((Json.at? ["body", "query", "bool", "filter", "bool", "must_not"]
              (draft.document settings)).isSome ↔ draft.filters.mustNot ≠ []) ∧
          ((Json.at? ["body", "sort"] (draft.document settings)).isSome ↔
            draft.sort ≠ []) := by
  refine ⟨fun left right plainLeft plainRight => ⟨fun same => ?_, ?_⟩, fun draft plain => ?_⟩
  · obtain ⟨target, query, clauses, sort, limit, offset⟩ :=
      eq_of_document_eq settings plainLeft plainRight same
    exact ⟨target, query, clauses .must, clauses .mustNot, sort, limit, offset⟩
  · rintro ⟨target, query, must, mustNot, sort, limit, offset⟩
    have filters : left.filters = right.filters := Filters.ext must mustNot
    exact document_congr settings plainLeft plainRight target query filters sort limit offset
  · have must := at?_document_clauses settings plain .must
    have mustNot := at?_document_clauses settings plain .mustNot
    simp only [Occurrence.key] at must mustNot
    refine ⟨?_, ?_, ?_, ?_⟩
    · rw [at?_document_bool settings plain, at?_filter]
      simpa using draft.filters.toJson?_isSome_iff
    · rw [must]
      exact Json.listed?_isSome_iff
    · rw [mustNot]
      exact Json.listed?_isSome_iff
    · rw [at?_document_sort]
      exact Json.listed?_isSome_iff

/-- A search for products by the bounds of their price. -/
def byPrice (bounds : Bounds) : Draft Empty :=
  (start { index := "shop", type := "products" } "").restrict .must (.range "price" bounds)

/-- A bound that is set to `null` is not a bound that is not set. -/
theorem document_null_bound_ne_unset :
    (byPrice .unset).strategies = [] ∧
      (byPrice (.onlyAbove .null)).strategies = [] ∧
      (byPrice .unset).document .initial ≠ (byPrice (.onlyAbove .null)).document .initial := by
  have plain : ∀ bounds, (byPrice bounds).strategies = [] := fun _ => rfl
  refine ⟨plain _, plain _, ?_⟩
  intro same
  obtain ⟨sameSearch, _⟩ := @document_eq_iff Empty _ .initial
  obtain ⟨_, _, must, _⟩ := (sameSearch _ _ (plain _) (plain _)).mp same
  simp [byPrice, restrict, Bounds.unset, Bounds.onlyAbove, start, Filters.empty] at must

end Draft

end Retrieval
