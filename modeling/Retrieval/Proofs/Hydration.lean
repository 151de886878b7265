import Retrieval.Results

namespace Retrieval

/-!
# Records take the places of their hits

The repository may answer with any records: in any order, more than were asked
for, or several with one identifier.  The records are put under their
identifiers one after another, so a hit stands for the last record with its
identifier.  A walk through the hits shows these records in the order of the
hits and leaves a notice about every hit without one.
-/

variable {Record : Type} [Indexable Record]

/-- A record is the last one of a list with an identifier. -/
def IsLast (records : List Record) (id : String) (record : Record) : Prop :=
  ∃ earlier later,
    records = earlier ++ record :: later ∧
      Indexable.id record = id ∧
        ∀ other ∈ later, Indexable.id other ≠ id

/-- No record of a list has an identifier. -/
def Lacks (records : List Record) (id : String) : Prop :=
  ∀ record ∈ records, Indexable.id record ≠ id

namespace IsLast

theorem cons
    {records : List Record}
    {id : String}
    {record : Record}
    (last : IsLast records id record)
    (first : Record) :
    IsLast (first :: records) id record := by
  obtain ⟨earlier, later, shape, named, others⟩ := last
  refine ⟨first :: earlier, later, ?_, named, others⟩
  rw [shape]
  rfl

/-- The last record of a longer list is its first one, or the last one of the rest. -/
theorem cons_iff
    {first record : Record}
    {rest : List Record}
    {id : String} :
    IsLast (first :: rest) id record ↔
      IsLast rest id record ∨
        Lacks rest id ∧ Indexable.id first = id ∧ first = record := by
  constructor
  · rintro ⟨earlier, later, shape, named, others⟩
    cases earlier with
    | nil =>
        obtain ⟨rfl, rfl⟩ := List.cons.inj shape
        exact .inr ⟨others, named, rfl⟩
    | cons head tail =>
        obtain ⟨_, shape⟩ := List.cons.inj shape
        exact .inl ⟨tail, later, shape, named, others⟩
  · rintro (last | ⟨lacking, named, rfl⟩)
    · exact last.cons first
    · exact ⟨[], rest, rfl, named, lacking⟩

/-- An identifier is lacking, or there is a last record with it. -/
theorem lacks_or_exists
    (records : List Record)
    (id : String) :
    Lacks records id ∨ ∃ record, IsLast records id record := by
  induction records with
  | nil =>
      exact .inl (by simp [Lacks])
  | cons first rest inductionHypothesis =>
      rcases inductionHypothesis with lacking | ⟨record, last⟩
      · by_cases named : Indexable.id first = id
        · exact .inr ⟨first, cons_iff.mpr (.inr ⟨lacking, named, rfl⟩)⟩
        · exact .inl (List.forall_mem_cons.mpr ⟨named, lacking⟩)
      · exact .inr ⟨record, last.cons first⟩

theorem not_lacks
    {records : List Record}
    {id : String}
    {record : Record}
    (last : IsLast records id record) :
    ¬ Lacks records id := by
  obtain ⟨earlier, later, rfl, named, _⟩ := last
  exact fun lacking => lacking record (by simp) named

/-- Among records whose identifiers differ, each is the last one with its own. -/
theorem of_mem_of_nodup
    {records : List Record}
    (differ : (records.map Indexable.id).Nodup)
    {record : Record}
    (member : record ∈ records) :
    IsLast records (Indexable.id record) record := by
  obtain ⟨earlier, later, rfl⟩ := List.append_of_mem member
  refine ⟨earlier, later, rfl, rfl, fun other follows same => ?_⟩
  rw [List.map_append, List.map_cons, List.nodup_append] at differ
  obtain ⟨_, differLater, _⟩ := differ
  rw [List.nodup_cons, ← same] at differLater
  exact differLater.1 (List.mem_map_of_mem follows)

end IsLast

namespace Catalog

/--
Putting records one after another keeps, under each identifier, the last record
with it, and what was there before if there is none.
-/
theorem find?_putAll_eq_some_iff
    (records : List Record)
    (catalog : Catalog Record)
    (id : String)
    (record : Record) :
    find? id (putAll records catalog) = some record ↔
      IsLast records id record ∨
        Lacks records id ∧ find? id catalog = some record := by
  -- The catalog grows along the list, so the induction is for every catalog.
  induction records generalizing catalog with
  | nil =>
      simp [putAll, IsLast, Lacks]
  | cons first rest inductionHypothesis =>
      have step := inductionHypothesis (put (Indexable.id first) first catalog)
      have unfolded :
          putAll (first :: rest) catalog =
            putAll rest (put (Indexable.id first) first catalog) :=
        rfl
      rw [unfolded, step, find?_put, IsLast.cons_iff]
      by_cases named : Indexable.id first = id
      · have present : ¬ Lacks (first :: rest) id :=
          fun lacking => lacking first (by simp) named
        simp [named, present]
      · have lacking : Lacks (first :: rest) id ↔ Lacks rest id := by
          simp [Lacks, named]
        simp [named, lacking]

/-- A catalog of records finds the last record with an identifier. -/
theorem find?_ofRecords_eq_some_iff
    {records : List Record}
    {id : String}
    {record : Record} :
    find? id (ofRecords records) = some record ↔ IsLast records id record := by
  rw [ofRecords, find?_putAll_eq_some_iff]
  simp [find?]

/-- A catalog of records finds nothing under an identifier exactly if no record has it. -/
theorem find?_ofRecords_eq_none_iff
    {records : List Record}
    {id : String} :
    find? id (ofRecords records) = none ↔ Lacks records id := by
  constructor
  · intro absent
    rcases IsLast.lacks_or_exists records id with lacking | ⟨record, last⟩
    · exact lacking
    · simp [find?_ofRecords_eq_some_iff.mpr last] at absent
  · intro lacking
    cases found : find? id (ofRecords records) with
    | none =>
        rfl
    | some record =>
        exact absurd lacking (find?_ofRecords_eq_some_iff.mp found).not_lacks

end Catalog

/-- What is shown of the explanation of a hit: all of it, unless it says nothing. -/
inductive Hit.Shows (hit : Hit) : Option Json → Prop where
  | said
      {explanation : Json}
      (holds : Json.Said hit.explanation explanation) :
      Hit.Shows hit (some explanation)
  | unsaid
      (absent : ∀ explanation, ¬ Json.Said hit.explanation explanation) :
      Hit.Shows hit none

/--
A walk through hits shows the last record with the identifier of each one, and
leaves a notice about a hit without a record.
-/
inductive Walk (records : List Record) :
    List Hit → List (ResultItem Record) → List Notice → Prop where
  | finished :
      Walk records [] [] []
  | loaded
      {hit : Hit}
      {record : Record}
      {explanation : Option Json}
      {hits : List Hit}
      {items : List (ResultItem Record)}
      {notices : List Notice}
      (last : IsLast records hit.id record)
      (shown : hit.Shows explanation)
      (rest : Walk records hits items notices) :
      Walk records (hit :: hits) (.loaded record explanation :: items) notices
  | dropped
      {hit : Hit}
      {hits : List Hit}
      {items : List (ResultItem Record)}
      {notices : List Notice}
      (lacking : Lacks records hit.id)
      (rest : Walk records hits items notices) :
      Walk records (hit :: hits) items (.hitDropped hit.id hit.index :: notices)

namespace Hit.Shows

/-- A hit shows its explanation, unless that says nothing. -/
theorem explanation? (hit : Hit) :
    hit.Shows hit.explanation? := by
  cases kept : hit.explanation? with
  | none =>
      exact .unsaid (Json.filter_isBlank_eq_none_iff.mp kept)
  | some explanation =>
      exact .said (Json.filter_isBlank_eq_some_iff.mp kept)

theorem eq_explanation?
    {hit : Hit}
    {explanation : Option Json}
    (shows : hit.Shows explanation) :
    explanation = hit.explanation? := by
  cases shows with
  | said holds =>
      exact (Json.filter_isBlank_eq_some_iff.mpr holds).symm
  | unsaid absent =>
      exact (Json.filter_isBlank_eq_none_iff.mpr absent).symm

end Hit.Shows

namespace Walk

variable
  {records : List Record}
  {hits : List Hit}
  {items : List (ResultItem Record)}
  {notices : List Notice}

/-- Every hit of a walk is shown or leaves a notice. -/
theorem length_add_length
    (walk : Walk records hits items notices) :
    items.length + notices.length = hits.length := by
  induction walk with
  | finished =>
      rfl
  | loaded last shown rest inductionHypothesis =>
      simp only [List.length_cons]
      omega
  | dropped lacking rest inductionHypothesis =>
      simp only [List.length_cons]
      omega

/-- A walk through all hits can be made by looking each one up in the catalog. -/
theorem of_catalog
    (records : List Record)
    (hits : List Hit) :
    Walk records hits
      (hits.filterMap (ResultView.loaded? (Catalog.ofRecords records)))
      (hits.filterMap (ResultView.dropped? (Catalog.ofRecords records))) := by
  induction hits with
  | nil =>
      exact .finished
  | cons hit rest inductionHypothesis =>
      cases found : Catalog.find? hit.id (Catalog.ofRecords records) with
      | some record =>
          have last := Catalog.find?_ofRecords_eq_some_iff.mp found
          simpa [ResultView.loaded?, ResultView.dropped?, found] using
            Walk.loaded last (Hit.Shows.explanation? hit) inductionHypothesis
      | none =>
          have lacking := Catalog.find?_ofRecords_eq_none_iff.mp found
          simpa [ResultView.loaded?, ResultView.dropped?, found] using
            Walk.dropped lacking inductionHypothesis

/-- No other walk can be made through the same hits. -/
theorem eq_catalog
    (walk : Walk records hits items notices) :
    items = hits.filterMap (ResultView.loaded? (Catalog.ofRecords records)) ∧
      notices = hits.filterMap (ResultView.dropped? (Catalog.ofRecords records)) := by
  induction walk with
  | finished =>
      exact ⟨rfl, rfl⟩
  | @loaded hit record explanation hits items notices last shown rest
      inductionHypothesis =>
      have found := Catalog.find?_ofRecords_eq_some_iff.mpr last
      obtain ⟨sameItems, sameNotices⟩ := inductionHypothesis
      simp [ResultView.loaded?, ResultView.dropped?, found, shown.eq_explanation?,
        ← sameItems, ← sameNotices]
  | @dropped hit hits items notices lacking rest inductionHypothesis =>
      have absent := Catalog.find?_ofRecords_eq_none_iff.mpr lacking
      obtain ⟨sameItems, sameNotices⟩ := inductionHypothesis
      simp [ResultView.loaded?, ResultView.dropped?, absent, ← sameItems, ← sameNotices]

end Walk

namespace ResultView

/-- The identifiers that are fetched are those of the hits, each of them once. -/
theorem fetch_keys
    (view : ResultView)
    (keyName : String)
    (response : Response) :
    (view.fetch keyName response).keys.Nodup ∧
      ∀ id, id ∈ (view.fetch keyName response).keys ↔
        ∃ hit ∈ response.hits.hits, hit.id = id := by
  refine ⟨nodup_distinct _, fun id => ?_⟩
  simp [fetch, Response.ids]

/-- With the records that a repository answers, each hit is looked up in their catalog. -/
theorem map_of_answered
    {view : ResultView}
    {response : Response}
    {repository : Repository Record}
    {records : List Record}
    (loading : view.raw = false)
    (matching : response.total ≠ 0)
    (answered : repository.find (view.fetch (Indexable.keyName Record) response) = .ok records) :
    view.map response repository =
      { result := .ok (response.hits.hits.filterMap (loaded? (Catalog.ofRecords records)))
        fetches := [view.fetch (Indexable.keyName Record) response]
        notices := response.hits.hits.filterMap (dropped? (Catalog.ofRecords records)) } := by
  simp [map, matching, loading, answered]

/--
For every response that counts a match and every view of records, there is one
request for records that every repository is asked, once.  Its failure is passed
on; with the records that it answers, whatever they are, the results and the
notices are those of the one walk that can be made through the hits.
-/
theorem map_takes_last_records
    (Record : Type)
    [Indexable Record]
    (view : ResultView)
    (response : Response)
    (loading : view.raw = false)
    (matching : response.total ≠ 0) :
    ∃ fetch,
      fetch.keyName = Indexable.keyName Record ∧
      fetch.keys.Nodup ∧
      (∀ id, id ∈ fetch.keys ↔ ∃ hit ∈ response.hits.hits, hit.id = id) ∧
      ∀ repository : Repository Record,
        (view.map response repository).fetches = [fetch] ∧
        (∀ error,
          repository.find fetch = .error error →
          (view.map response repository).result = .error error ∧
            (view.map response repository).notices = []) ∧
        (∀ records,
          repository.find fetch = .ok records →
          ∃ items,
            (view.map response repository).result = .ok items ∧
            items.length + (view.map response repository).notices.length =
              response.hits.hits.length ∧
            ∀ shown left,
              Walk records response.hits.hits shown left ↔
                shown = items ∧ left = (view.map response repository).notices) := by
  obtain ⟨once, asked⟩ := fetch_keys view (Indexable.keyName Record) response
  refine ⟨view.fetch (Indexable.keyName Record) response, rfl, once, asked, ?_⟩
  intro repository
  refine ⟨?_, ?_, ?_⟩
  · simp only [map, matching, loading]
    cases repository.find (view.fetch (Indexable.keyName Record) response) with
    | error error =>
        rfl
    | ok records =>
        rfl
  · intro error failed
    simp [map, matching, loading, failed]
  · intro records answered
    have walk := Walk.of_catalog records response.hits.hits
    rw [map_of_answered loading matching answered]
    refine ⟨_, rfl, walk.length_add_length, fun shown left => ⟨Walk.eq_catalog, ?_⟩⟩
    rintro ⟨rfl, rfl⟩
    exact walk

/-- A record with a key and nothing else. -/
def keyed (key documentType : String) : PlainRecord where
  key := .string key
  documentType := documentType
  index := .named ""
  fields := []
  mapping := none

/-- Of two records with one key the later one is shown for each of its hits. -/
theorem map_takes_later_of_two :
    let response := Response.ofHits [.make "1" [], .make "2" [], .make "1" []]
    let view : ResultView := { raw := false, fields := none }
    let repository := Repository.ignoringKeys [keyed "1" "earlier", keyed "1" "later"]
    response.total ≠ 0 ∧
      view.raw = false ∧
      (view.map response repository).result =
        .ok [.loaded (keyed "1" "later") none, .loaded (keyed "1" "later") none] ∧
      (view.map response repository).notices = [.hitDropped "2" ""] := by
  intro response view repository
  have matching : response.total ≠ 0 := by
    decide
  have loading : view.raw = false := rfl
  obtain ⟨fetch, _, _, _, answers⟩ :=
    map_takes_last_records PlainRecord view response loading matching
  obtain ⟨_, _, walks⟩ := answers repository
  obtain ⟨items, result, _, only⟩ := walks _ rfl
  have last :
      IsLast [keyed "1" "earlier", keyed "1" "later"] "1" (keyed "1" "later") :=
    ⟨[keyed "1" "earlier"], [], rfl, rfl, by simp⟩
  have lacking : Lacks [keyed "1" "earlier", keyed "1" "later"] "2" := by
    simp [Lacks, keyed, Indexable.id, Indexable.key, Json.keyText]
  have silent : ∀ id, (Hit.make id []).Shows none :=
    fun id => Hit.Shows.explanation? (Hit.make id [])
  obtain ⟨sameItems, sameNotices⟩ :=
    (only _ _).mp
      (.loaded last (silent "1") (.dropped lacking (.loaded last (silent "1") .finished)))
  exact ⟨matching, loading, by rw [result, ← sameItems], sameNotices.symm⟩

end ResultView

end Retrieval
