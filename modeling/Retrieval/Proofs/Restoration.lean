import Retrieval.Proofs.Addresses
import Retrieval.Proofs.Hydration
import Retrieval.Proofs.ResponseGrammar

namespace Retrieval

/-!
# Records come back from a search

A record is indexed under its key, and a search reports the key as it was
written or as a text.  Either way the response is read, the identifier leads
back to the record, and the records come back in the order of their hits, each
with what the search engine says about its score.
-/

variable {Record : Type}

/-- A record that a search finds, with what is said about its score. -/
structure Pick (Record : Type) where
  record : Record
  explanation : Option Json

/-- The result that a pick comes back as. -/
inductive Pick.ComesBackAs (pick : Pick Record) : ResultItem Record → Prop where
  | explained
      {explanation : Json}
      (said : Json.Said pick.explanation explanation) :
      ComesBackAs pick (.loaded pick.record (some explanation))
  | unexplained
      (silent : ∀ explanation, ¬Json.Said pick.explanation explanation) :
      ComesBackAs pick (.loaded pick.record none)

/-- The one result that a pick can come back as. -/
def Pick.comesBack (pick : Pick Record) : ResultItem Record :=
  .loaded pick.record (pick.explanation.filter fun explanation => !explanation.isBlank)

theorem Pick.ComesBackAs.eq_comesBack
    {pick : Pick Record}
    {item : ResultItem Record}
    (back : pick.ComesBackAs item) :
    item = pick.comesBack := by
  rw [Pick.comesBack]
  cases back with
  | explained said =>
      rw [Json.filter_isBlank_eq_some_iff.mpr said]
  | unexplained silent =>
      rw [Json.filter_isBlank_eq_none_iff.mpr silent]

variable [Indexable Record]

/-- A hit refers to a record by the identifier of its document, as it is or as a text. -/
inductive RefersTo (record : Record) : Json → Prop where
  | written
      {envelope : Envelope}
      {id : Json}
      (made : Envelope.forDocument record = .ok envelope)
      (addressed : envelope.toJson.member? "id" = some id) :
      RefersTo record id
  | text
      {envelope : Envelope}
      {id : Json}
      (made : Envelope.forDocument record = .ok envelope)
      (addressed : envelope.toJson.member? "id" = some id) :
      RefersTo record (.string id.keyText)

/-- The members of a hit that reports a pick. -/
structure Pick.ReportedIn (pick : Pick Record) (members : Members) : Prop where
  id : ∃ found, Members.find? "_id" members = some found ∧ RefersTo pick.record found
  explanation : Members.find? "_explanation" members = pick.explanation
  index : members.Admits "_index" Json.IsString
  type : members.Admits "_type" (Json.OrNull Json.IsString)
  score : members.Admits "_score" (Json.OrNull Json.IsNumber)
  source : members.Admits "_source" Json.IsObject

/-- A hit that reports a pick. -/
def Pick.Reported (pick : Pick Record) (hit : Json) : Prop :=
  ∃ members, hit = .object members ∧ pick.ReportedIn members

/-- The members of a list of hits that reports picks and their total. -/
structure PicksReportedIn
    (picks : List (Pick Record))
    (total : UInt64)
    (members : Members) : Prop where
  total : ∃ found, Members.find? "total" members = some found ∧ TotalReported total found
  maxScore : members.Admits "max_score" (Json.OrNull Json.IsNumber)
  hits :
    ∃ hits,
      Members.find? "hits" members = some (.array hits) ∧ List.Forall₂ Pick.Reported picks hits

/-- The members of a response that reports picks and their total. -/
structure ResponseReportedIn
    (picks : List (Pick Record))
    (total : UInt64)
    (members : Members) : Prop where
  took : members.Admits "took" Json.IsUnsigned
  timedOut : members.Admits "timed_out" Json.IsBoolean
  hits :
    ∃ list, Members.find? "hits" members = some (.object list) ∧ PicksReportedIn picks total list

/-- Whatever form refers to a record, its text is the identifier of the record. -/
theorem RefersTo.keyText_eq
    {record : Record}
    {found : Json}
    (refers : RefersTo record found) :
    found.keyText = Indexable.id record := by
  cases refers with
  | written made addressed =>
      rw [Envelope.id_of_forDocument made] at addressed
      cases addressed
      rfl
  | text made addressed =>
      rw [Envelope.id_of_forDocument made] at addressed
      cases addressed
      rfl

namespace Pick

/-- A hit stands for a pick: it leads to its record and says the same about its score. -/
structure StandsFor (pick : Pick Record) (hit : Hit) : Prop where
  id : hit.id = Indexable.id pick.record
  said :
    ∀ explanation,
      Json.Said hit.explanation explanation ↔ Json.Said pick.explanation explanation

variable {pick : Pick Record} {members : Members}

theorem StandsFor.comesBackAs
    {hit : Hit}
    {explanation : Option Json}
    (stands : pick.StandsFor hit)
    (shown : hit.Shows explanation) :
    pick.ComesBackAs (.loaded pick.record explanation) := by
  cases shown with
  | said holds =>
      exact .explained ((stands.said _).mp holds)
  | unsaid absent =>
      exact .unexplained fun said holds => absent said ((stands.said said).mpr holds)

/-- A hit that reports a pick is read, and stands for it. -/
theorem ReportedIn.reads
    (reported : pick.ReportedIn members) :
    ∃ hit : Hit, hit.ReadFrom members ∧ pick.StandsFor hit := by
  obtain ⟨id, present, refers⟩ := reported.id
  have readable : Hit.Readable members :=
    ⟨⟨id, present⟩, reported.index, reported.type, reported.score, reported.source⟩
  obtain ⟨hit, read⟩ := Hit.exists_readFrom_iff.mpr readable
  -- The identifier is read as its text, whatever form it has.
  obtain ⟨same, presentToo, text⟩ := read.id
  cases present.symm.trans presentToo
  refine ⟨hit, read, text.symm.trans refers.keyText_eq, fun said => ?_⟩
  rw [← reported.explanation]
  exact read.said_explanation_iff said

end Pick

/-- Hits that report picks are read, and stand for them in their order. -/
theorem exists_hits_standing_for
    {picks : List (Pick Record)}
    {hits : List Json}
    (reported : List.Forall₂ Pick.Reported picks hits) :
    ∃ read,
      List.Forall₂ (fun found hit => Hit.ofJson found = .ok hit) hits read ∧
        List.Forall₂ Pick.StandsFor picks read := by
  induction reported with
  | nil =>
      exact ⟨[], .nil, .nil⟩
  | cons first rest inductionHypothesis =>
      obtain ⟨members, rfl, reportedIn⟩ := first
      obtain ⟨hit, readsHit, stands⟩ := reportedIn.reads
      obtain ⟨others, readsOthers, standOthers⟩ := inductionHypothesis
      exact
        ⟨hit :: others, .cons (Hit.ofJson_object_eq_ok_iff.mpr readsHit) readsOthers,
          .cons stands standOthers⟩

/-- A list of hits that reports picks is read, with its total and a hit for each pick. -/
theorem PicksReportedIn.reads
    {picks : List (Pick Record)}
    {total : UInt64}
    {members : Members}
    (reported : PicksReportedIn picks total members) :
    ∃ list : HitList,
      list.ReadFrom members ∧
        list.total.value = total ∧
        List.Forall₂ Pick.StandsFor picks list.hits := by
  obtain ⟨foundTotal, presentTotal, reportedTotal⟩ := reported.total
  obtain ⟨readTotal, readsTotal, counts⟩ := reportedTotal.reads
  obtain ⟨maxScore, readsMaxScore⟩ :=
    reported.maxScore.reads fun _ => Decode.nullable_reads_iff Decode.float_reads_iff
  obtain ⟨foundHits, presentHits, reportedHits⟩ := reported.hits
  obtain ⟨hits, readsHits, stand⟩ := exists_hits_standing_for reportedHits
  have readsList := Decode.list_eq_ok_iff.mpr ⟨foundHits, rfl, readsHits⟩
  exact
    ⟨{ total := readTotal, maxScore := maxScore, hits := hits },
      ⟨.held presentTotal readsTotal, readsMaxScore, .held presentHits readsList⟩, counts, stand⟩

/-- A response that reports picks is read, with their total and a hit for each pick. -/
theorem ResponseReportedIn.reads
    {picks : List (Pick Record)}
    {total : UInt64}
    {members : Members}
    (reported : ResponseReportedIn picks total members) :
    ∃ response : Response,
      response.ReadFrom members ∧
        response.total = total ∧
        List.Forall₂ Pick.StandsFor picks response.hits.hits := by
  obtain ⟨took, readsTook⟩ := reported.took.reads fun _ => Decode.unsigned_reads_iff
  obtain ⟨timedOut, readsTimedOut⟩ := reported.timedOut.reads fun _ => Decode.boolean_reads_iff
  obtain ⟨foundList, presentList, reportedPicks⟩ := reported.hits
  obtain ⟨list, readsList, counts, stand⟩ := reportedPicks.reads
  obtain ⟨profile, readsProfile⟩ := Decode.exists_reads_anything members "profile"
  have readsHits := HitList.ofJson_object_eq_ok_iff.mpr readsList
  exact
    ⟨{ took := took, timedOut := timedOut, hits := list, profile := profile },
      ⟨readsTook, readsTimedOut, .held presentList readsHits, readsProfile⟩, counts, stand⟩

/-- Of the records that are asked for, each is the last one with its identifier. -/
theorem IsLast.of_asked
    {held : List Record}
    (differ : (held.map Indexable.id).Nodup)
    {record : Record}
    (member : record ∈ held)
    {keys : List String}
    (asked : Indexable.id record ∈ keys) :
    IsLast (held.filter fun record => keys.contains (Indexable.id record))
      (Indexable.id record) record := by
  refine .of_mem_of_nodup ?_ ?_
  · exact differ.sublist (List.filter_sublist.map _)
  · rw [List.mem_filter, List.contains_iff_mem]
    exact ⟨member, asked⟩

theorem ids_of_standing
    {picks : List (Pick Record)}
    {hits : List Hit}
    (stand : List.Forall₂ Pick.StandsFor picks hits) :
    hits.map Hit.id = picks.map fun pick => Indexable.id pick.record := by
  induction stand with
  | nil =>
      rfl
  | cons first rest inductionHypothesis =>
      rw [List.map_cons, List.map_cons, first.id, inductionHypothesis]

/-- A walk through hits that stand for picks shows what the picks come back as. -/
theorem exists_walk
    {records : List Record}
    {picks : List (Pick Record)}
    {hits : List Hit}
    (stand : List.Forall₂ Pick.StandsFor picks hits)
    (known : ∀ pick ∈ picks, IsLast records (Indexable.id pick.record) pick.record) :
    ∃ items, Walk records hits items [] ∧ List.Forall₂ Pick.ComesBackAs picks items := by
  induction stand with
  | nil =>
      exact ⟨[], .finished, .nil⟩
  | @cons pick hit picks hits first rest inductionHypothesis =>
      have knownRest : ∀ other ∈ picks, IsLast records (Indexable.id other.record) other.record :=
        fun other member => known other (List.mem_cons_of_mem pick member)
      obtain ⟨items, walk, comeBack⟩ := inductionHypothesis knownRest
      have last : IsLast records hit.id pick.record := by
        rw [first.id]
        exact known pick List.mem_cons_self
      have shown := Hit.Shows.explanation? hit
      exact ⟨_, .loaded last shown walk, .cons (first.comesBackAs shown) comeBack⟩

namespace ResultView

/--
For every list of records that have an address and whose identifiers differ, a
record is written under its key, and every response that reports picks of these
records with a total above zero is read.  Mapped against the list, it gives the
records of the picks in their order, each with what is said about its score, and
no hit is dropped.
-/
theorem picked_records_come_back
    (held : List Record)
    (addressed :
      ∀ record ∈ held,
        Indexable.documentType record ≠ "" ∧ (Indexable.index record).name ≠ "")
    (differ : (held.map Indexable.id).Nodup)
    (view : ResultView)
    (loading : view.raw = false) :
    (∀ record ∈ held,
      ∃ envelope,
        Envelope.forDocument record = .ok envelope ∧
          envelope.toJson.member? "id" = some (Indexable.key record)) ∧
      ∀ (picks : List (Pick Record)) (total : UInt64) (members : Members),
        (∀ pick ∈ picks, pick.record ∈ held) →
        total ≠ 0 →
        ResponseReportedIn picks total members →
        ∃ response items,
          Response.ofJson (.object members) = .ok response ∧
            (view.map response (.ofList held)).result = .ok items ∧
            List.Forall₂ Pick.ComesBackAs picks items ∧
            (view.map response (.ofList held)).notices = [] := by
  constructor
  · intro record member
    have lacksNothing := Indexable.addressFault?_eq_none_iff.mpr (addressed record member)
    have made :=
      (Envelope.forDocument_eq record).trans
        (Indexable.addressed_eq_ok_iff.mpr ⟨lacksNothing, rfl⟩)
    exact ⟨_, made, Envelope.id_of_forDocument made⟩
  · intro picks total members picked matching reported
    obtain ⟨response, reads, counts, stand⟩ := reported.reads
    -- The identifiers that are asked for are those of the picked records.
    have known :
        ∀ pick ∈ picks,
          IsLast
            (held.filter fun record => (distinct response.ids).contains (Indexable.id record))
            (Indexable.id pick.record) pick.record := by
      intro pick member
      refine .of_asked differ (picked pick member) ?_
      rw [mem_distinct, Response.ids, ids_of_standing stand]
      exact List.mem_map_of_mem member
    obtain ⟨items, walk, comeBack⟩ := exists_walk stand known
    obtain ⟨sameItems, sameNotices⟩ := walk.eq_catalog
    have answered :
        (Repository.ofList held).find (view.fetch (Indexable.keyName Record) response) =
          .ok (held.filter fun record =>
            (distinct response.ids).contains (Indexable.id record)) :=
      rfl
    rw [← counts] at matching
    refine ⟨response, items, Response.ofJson_object_eq_ok_iff.mpr reads, ?_, comeBack, ?_⟩
    · rw [map_of_answered loading matching answered, sameItems]
    · rw [map_of_answered loading matching answered, ← sameNotices]

/-- A record with a number as its key. -/
def numbered : PlainRecord where
  key := .number (.natural 7)
  documentType := "products"
  index := .named "shop"
  fields := []
  mapping := none

/-- A record with a string as its key. -/
def lettered : PlainRecord :=
  { numbered with key := .string "b" }

/-- What is said about a score. -/
def praise : Json :=
  Json.single "value" (.number (.natural 2))

/-- Three picks, two of them of one record. -/
def threePicks : List (Pick PlainRecord) :=
  [{ record := lettered, explanation := none },
    { record := numbered, explanation := some praise },
    { record := numbered, explanation := some (.array []) }]

/-- A response that reports the picks; a key that is a number comes back in both forms. -/
def threeHits : Members :=
  [("hits", .object [
    ("hits", .array [
      .object [("_id", .string "b")],
      .object [("_explanation", praise), ("_id", .string "7")],
      .object [("_explanation", .array []), ("_id", .number (.natural 7))]]),
    ("total", .object [("value", Json.ofUInt64 3)])])]

theorem threeHits_reported : ResponseReportedIn threePicks 3 threeHits where
  took := .of_lacking (by decide)
  timedOut := .of_lacking (by decide)
  hits := by
    have bare
        {pick : Pick PlainRecord}
        {members : Members}
        (id : ∃ found, Members.find? "_id" members = some found ∧ RefersTo pick.record found)
        (explanation : Members.find? "_explanation" members = pick.explanation)
        (lacking :
          ∀ key ∈ ["_index", "_type", "_score", "_source"], Members.find? key members = none) :
        pick.Reported (.object members) :=
      ⟨members, rfl, id, explanation, .of_lacking (lacking _ (by simp)),
        .of_lacking (lacking _ (by simp)), .of_lacking (lacking _ (by simp)),
        .of_lacking (lacking _ (by simp))⟩
    have asText : RefersTo numbered (.string "7") := by
      have text : (Indexable.key numbered).keyText = "7" := by
        decide
      rw [← text]
      exact .text rfl rfl
    refine
      ⟨_, rfl, ⟨_, rfl, .related rfl (.of_lacking (by decide))⟩, .of_lacking (by decide), _, rfl,
        .cons ?_ (.cons ?_ (.cons ?_ .nil))⟩
    · exact bare ⟨_, rfl, .written rfl rfl⟩ rfl (by decide)
    · exact bare ⟨_, rfl, asText⟩ rfl (by decide)
    · exact bare ⟨_, rfl, .written rfl rfl⟩ rfl (by decide)

/-- Records with keys of two kinds come back, for each of their hits. -/
theorem three_hits_come_back :
    let view : ResultView := { raw := false, fields := none }
    ∃ response,
      Response.ofJson (.object threeHits) = .ok response ∧
        (view.map response (.ofList [numbered, lettered])).result =
          .ok [.loaded lettered none, .loaded numbered (some praise), .loaded numbered none] ∧
        (view.map response (.ofList [numbered, lettered])).notices = [] := by
  intro view
  have addressed :
      ∀ record ∈ [numbered, lettered],
        Indexable.documentType record ≠ "" ∧ (Indexable.index record).name ≠ "" := by
    decide
  have differ : ([numbered, lettered].map Indexable.id).Nodup := by
    decide
  have picked : ∀ pick ∈ threePicks, pick.record ∈ [numbered, lettered] := by
    simp [threePicks]
  obtain ⟨_, restored⟩ := picked_records_come_back [numbered, lettered] addressed differ view rfl
  obtain ⟨response, items, reads, result, comeBack, notices⟩ :=
    restored threePicks 3 threeHits picked (by decide) threeHits_reported
  have same : threePicks.map Pick.comesBack = items := by
    rw [← List.forall₂_eq_eq_eq, List.forall₂_map_left_iff]
    exact comeBack.imp fun _ _ back => back.eq_comesBack.symm
  refine ⟨response, reads, ?_, notices⟩
  rw [result, ← same]
  rfl

end ResultView

end Retrieval
