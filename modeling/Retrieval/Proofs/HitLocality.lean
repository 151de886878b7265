import Mathlib.Data.List.Basic
import Retrieval.Proofs.Hydration

namespace Retrieval

/-!
# Each hit is mapped by itself

The records behind a response are fetched at once, yet what is shown of a hit
depends on that hit alone: a repository that holds a list of records gives, for
every identifier that is asked for, the last record of the list with it.  What
else the repository answers is never looked at, and neither is the order of
records whose identifiers differ.
-/

variable {Record : Type} [Indexable Record]

/-- The same response with one hit. -/
def Response.only (response : Response) (hit : Hit) : Response :=
  { response with hits := { response.hits with hits := [hit] } }

@[simp] theorem Response.total_only (response : Response) (hit : Hit) :
    (response.only hit).total = response.total :=
  rfl

@[simp] theorem Response.hits_only (response : Response) (hit : Hit) :
    (response.only hit).hits.hits = [hit] :=
  rfl

/-- Records that are kept for their identifier hide no record with that identifier. -/
theorem lacks_filter_iff
    {records : List Record}
    {keep : Record → Bool}
    {id : String}
    (kept : ∀ record ∈ records, Indexable.id record = id → keep record = true) :
    Lacks (records.filter keep) id ↔ Lacks records id := by
  constructor
  · intro lacking record member named
    exact lacking record (List.mem_filter.mpr ⟨member, kept record member named⟩) named
  · intro lacking record member
    exact lacking record (List.mem_filter.mp member).1

theorem isLast_filter_iff
    {records : List Record}
    {keep : Record → Bool}
    {id : String}
    (kept : ∀ record ∈ records, Indexable.id record = id → keep record = true)
    (record : Record) :
    IsLast (records.filter keep) id record ↔ IsLast records id record := by
  induction records with
  | nil =>
      rfl
  | cons first rest inductionHypothesis =>
      have keptRest :
          ∀ other ∈ rest, Indexable.id other = id → keep other = true :=
        fun other member => kept other (List.mem_cons_of_mem first member)
      have step := inductionHypothesis keptRest
      rw [IsLast.cons_iff]
      by_cases keeps : keep first = true
      · rw [List.filter_cons_of_pos keeps, IsLast.cons_iff, step, lacks_filter_iff keptRest]
      · -- A first record that is left out has another identifier.
        have unnamed : Indexable.id first ≠ id :=
          fun named => keeps (kept first List.mem_cons_self named)
        rw [List.filter_cons_of_neg keeps, step]
        simp [unnamed]

namespace Catalog

theorem find?_congr
    {records others : List Record}
    {id : String}
    (same : ∀ record, IsLast records id record ↔ IsLast others id record) :
    find? id (ofRecords records) = find? id (ofRecords others) := by
  refine Option.ext fun record => ?_
  rw [find?_ofRecords_eq_some_iff, find?_ofRecords_eq_some_iff]
  exact same record

end Catalog

/-- Among records whose identifiers differ, the last one with an identifier is the only one. -/
theorem isLast_iff_of_nodup
    {records : List Record}
    (differ : (records.map Indexable.id).Nodup)
    {id : String}
    {record : Record} :
    IsLast records id record ↔ record ∈ records ∧ Indexable.id record = id := by
  constructor
  · rintro ⟨earlier, later, rfl, named, _⟩
    exact ⟨by simp, named⟩
  · rintro ⟨member, rfl⟩
    exact .of_mem_of_nodup differ member

namespace Repository

/-- A repository finds for each identifier that it is asked for the last record of a list. -/
def Serves (repository : Repository Record) (held : List Record) : Prop :=
  ∀ fetch,
    ∃ records,
      repository.find fetch = .ok records ∧
        ∀ id ∈ fetch.keys, ∀ record, IsLast records id record ↔ IsLast held id record

theorem serves_ofList (held : List Record) :
    (ofList held).Serves held := by
  refine fun fetch => ⟨_, rfl, fun id asked record => isLast_filter_iff ?_ record⟩
  rintro other _ rfl
  exact List.contains_iff_mem.mpr asked

theorem serves_ignoringKeys (held : List Record) :
    (ignoringKeys held).Serves held :=
  fun _ => ⟨held, rfl, fun _ _ _ => Iff.rfl⟩

/-- The order of records whose identifiers differ does not matter. -/
theorem Serves.of_perm
    {repository : Repository Record}
    {held others : List Record}
    (serves : repository.Serves others)
    (reordered : held.Perm others)
    (differ : (held.map Indexable.id).Nodup) :
    repository.Serves held := by
  have differToo : (others.map Indexable.id).Nodup :=
    (reordered.map Indexable.id).nodup_iff.mp differ
  intro fetch
  obtain ⟨records, answered, finds⟩ := serves fetch
  refine ⟨records, answered, fun id asked record => ?_⟩
  rw [finds id asked, isLast_iff_of_nodup differ, isLast_iff_of_nodup differToo,
    reordered.mem_iff]

end Repository

namespace ResultView

section

variable (view : ResultView) (total : UInt64) (held : List Record) (hit : Hit)

/-- What is shown of a hit whose record is looked up in a list. -/
def itemsOf : List (ResultItem Record) :=
  if total = 0 then
    []
  else if view.raw then
    [.stored (view.storedFields hit)]
  else
    (loaded? (Catalog.ofRecords held) hit).toList

/-- What is noticed about a hit whose record is looked up in a list. -/
def noticesOf : List Notice :=
  if total = 0 then
    []
  else if view.raw then
    []
  else
    (dropped? (Catalog.ofRecords held) hit).toList

end

variable {held : List Record} {repository : Repository Record}

/-- The hits of a response are mapped one by one over a repository that serves a list. -/
theorem map_of_serves
    (serves : repository.Serves held)
    (view : ResultView)
    (response : Response) :
    let mapped := view.map response repository
    let hits := response.hits.hits
    mapped.result = .ok (hits.flatMap (view.itemsOf response.total held)) ∧
      mapped.notices = hits.flatMap (view.noticesOf response.total held) := by
  by_cases unmatched : response.total = 0
  · simp [map, itemsOf, noticesOf, unmatched]
  · cases loading : view.raw with
    | true =>
        have items :
            view.itemsOf response.total held =
              fun hit => [.stored (view.storedFields hit)] := by
          funext hit
          simp [itemsOf, unmatched, loading]
        simp [map, items, noticesOf, unmatched, loading, List.map_eq_flatMap]
    | false =>
        let fetch := view.fetch (Indexable.keyName Record) response
        obtain ⟨records, answered, finds⟩ := serves fetch
        -- Every identifier of a hit is asked for, so that its record is found.
        have found : ∀ hit ∈ response.hits.hits,
            Catalog.find? hit.id (Catalog.ofRecords records) =
              Catalog.find? hit.id (Catalog.ofRecords held) := by
          intro hit member
          refine Catalog.find?_congr (finds hit.id ?_)
          exact ((fetch_keys view _ response).2 hit.id).mpr ⟨hit, member, rfl⟩
        rw [map_of_answered loading unmatched answered, List.filterMap_eq_flatMap_toList,
          List.filterMap_eq_flatMap_toList]
        constructor
        · refine congrArg Except.ok (List.flatMap_congr fun hit member => ?_)
          simp [itemsOf, unmatched, loading, loaded?, found hit member]
        · refine List.flatMap_congr fun hit member => ?_
          simp [noticesOf, unmatched, loading, dropped?, found hit member]

/-- Repositories that serve one list give the same results and leave the same notices. -/
theorem map_congr_of_serves
    {other : Repository Record}
    (serves : repository.Serves held)
    (servesToo : other.Serves held)
    (view : ResultView)
    (response : Response) :
    (view.map response other).result = (view.map response repository).result ∧
      (view.map response other).notices = (view.map response repository).notices := by
  obtain ⟨result, notices⟩ := map_of_serves serves view response
  obtain ⟨otherResult, otherNotices⟩ := map_of_serves servesToo view response
  exact ⟨otherResult.trans result.symm, otherNotices.trans notices.symm⟩

/--
For every list of records, every view and every response: mapped over the list,
the response gives what it gives with each of its hits alone, one after another,
and leaves the same notices.  It makes no difference if the repository answers
all its records to every request, nor, if the identifiers of the records differ,
in which order it holds them.
-/
theorem map_hit_by_hit
    (held : List Record)
    (view : ResultView)
    (response : Response) :
    let mapped := view.map response (.ofList held)
    (∃ shown : Hit → List (ResultItem Record),
      (∀ hit, (view.map (response.only hit) (.ofList held)).result = .ok (shown hit)) ∧
        mapped.result = .ok (response.hits.hits.flatMap shown)) ∧
      (mapped.notices =
        response.hits.hits.flatMap fun hit =>
          (view.map (response.only hit) (.ofList held)).notices) ∧
      ((view.map response (.ignoringKeys held)).result = mapped.result ∧
        (view.map response (.ignoringKeys held)).notices = mapped.notices) ∧
      ((held.map Indexable.id).Nodup →
        ∀ others,
          held.Perm others →
          (view.map response (.ofList others)).result = mapped.result ∧
            (view.map response (.ofList others)).notices = mapped.notices) := by
  intro mapped
  have serves := Repository.serves_ofList held
  obtain ⟨result, notices⟩ := map_of_serves serves view response
  have alone (hit : Hit) :
      (view.map (response.only hit) (.ofList held)).result =
          .ok (view.itemsOf response.total held hit) ∧
        (view.map (response.only hit) (.ofList held)).notices =
          view.noticesOf response.total held hit := by
    simpa using map_of_serves serves view (response.only hit)
  refine ⟨⟨_, fun hit => (alone hit).1, result⟩, ?_, ?_, ?_⟩
  · rw [notices]
    exact List.flatMap_congr fun hit _ => (alone hit).2.symm
  · exact map_congr_of_serves serves (Repository.serves_ignoringKeys held) view response
  · intro differ others reordered
    have servesToo := (Repository.serves_ofList others).of_perm reordered differ
    exact map_congr_of_serves serves servesToo view response

/-- Records in the other order are shown in the order of the hits all the same. -/
theorem map_ignores_order_of_two :
    let response := Response.ofHits [.make "2" [], .make "3" [], .make "1" []]
    let view : ResultView := { raw := false, fields := none }
    let held := [keyed "1" "products", keyed "2" "products"]
    let others := [keyed "2" "products", keyed "1" "products"]
    (held.map Indexable.id).Nodup ∧
      held.Perm others ∧
      (view.map response (.ofList others)).result =
        .ok [.loaded (keyed "2" "products") none, .loaded (keyed "1" "products") none] ∧
      (view.map response (.ofList others)).notices = [.hitDropped "3" ""] := by
  intro response view held others
  have differ : (held.map Indexable.id).Nodup := by
    decide
  have reordered : held.Perm others :=
    .swap _ _ _
  obtain ⟨_, _, _, anyOrder⟩ := map_hit_by_hit held view response
  obtain ⟨result, notices⟩ := anyOrder differ others reordered
  exact ⟨differ, reordered, result, notices⟩

end ResultView

end Retrieval
