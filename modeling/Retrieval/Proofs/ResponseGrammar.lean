import Retrieval.Proofs.ResponseReading

namespace Retrieval

/-!
# The responses that can be read

An object that holds its hits as objects is read as a response exactly if each
member that is looked for has a value of its kind, or is absent; the identifier
of a hit must be there and may be any value.  `null` stands for an absent value
where the type, a score or the relation of a total is read, and nowhere else.
What is read of the hits and their number is what the object says about them.
-/

open Decode

namespace Json

/-- The members of the object at a path; none if there is no object. -/
def membersAt (path : List String) (value : Json) : Members :=
  match value.at? path with
  | some (.object members) => members
  | _ => []

/-- The items of the array at a path; none if there is no array. -/
def itemsAt (path : List String) (value : Json) : List Json :=
  match value.at? path with
  | some (.array items) => items
  | _ => []

end Json

/-- The forms in which a total is reported. -/
inductive TotalReported (total : UInt64) : Json → Prop where
  | integer :
      TotalReported total (Json.ofUInt64 total)
  | related
      {members : Members}
      (value : Members.find? "value" members = some (Json.ofUInt64 total))
      (relation : members.Admits "relation" (Json.OrNull Json.IsString)) :
      TotalReported total (.object members)

/-- The members of a hit that can be read. -/
structure Hit.Readable (members : Members) : Prop where
  id : ∃ found, Members.find? "_id" members = some found
  index : members.Admits "_index" Json.IsString
  type : members.Admits "_type" (Json.OrNull Json.IsString)
  score : members.Admits "_score" (Json.OrNull Json.IsNumber)
  source : members.Admits "_source" Json.IsObject

/-- The members of a list of hits that can be read. -/
structure HitList.Readable (members : Members) : Prop where
  total : members.Admits "total" fun found => ∃ total, TotalReported total found
  maxScore : members.Admits "max_score" (Json.OrNull Json.IsNumber)
  hits : members.Admits "hits" (Json.IsArrayOf (Json.IsObjectOf Hit.Readable))

/-- The members of a response that can be read. -/
structure Response.Readable (members : Members) : Prop where
  took : members.Admits "took" Json.IsUnsigned
  timedOut : members.Admits "timed_out" Json.IsBoolean
  hits : members.Admits "hits" (Json.IsObjectOf HitList.Readable)

/-- The hits of a list are objects. -/
def HitList.HoldsObjects (members : Members) : Prop :=
  members.Admits "hits" (Json.IsArrayOf Json.IsObject)

/-- The list of hits of a response is an object, and so is each of its hits. -/
def Response.HoldsObjects (members : Members) : Prop :=
  members.Admits "hits" (Json.IsObjectOf HitList.HoldsObjects)

/-- A response takes its hits and their total from a value. -/
structure Response.TakenFrom (response : Response) (value : Json) : Prop where
  hits :
    List.Forall₂ (fun item hit => Hit.ofJson item = .ok hit)
      (value.itemsAt ["hits", "hits"]) response.hits.hits
  ids :
    (value.itemsAt ["hits", "hits"]).map (fun item => (item.member? "_id").map Json.keyText) =
      response.ids.map some
  sources :
    (value.itemsAt ["hits", "hits"]).map (Json.membersAt ["_source"]) =
      response.hits.hits.map Hit.source
  counted :
    ∀ found, value.at? ["hits", "total"] = some found → TotalReported response.total found
  uncounted :
    value.at? ["hits", "total"] = none → response.total = 0

/-! Which values can be read. -/

theorem TotalReported.reads
    {total : UInt64}
    {found : Json}
    (reported : TotalReported total found) :
    ∃ read : Total, Total.ofJson found = .ok read ∧ read.value = total := by
  cases reported with
  | integer =>
      exact ⟨.count total, Total.ofJson_eq_ok_iff.mpr (.inl ⟨total, rfl, rfl⟩), rfl⟩
  | related value relation =>
      obtain ⟨related, readsRelation⟩ :=
        relation.reads fun _ => nullable_reads_iff string_reads_iff
      have read :=
        Total.ofMembers_eq_ok_iff.mpr
          ⟨total, related, ⟨_, value, rfl⟩, readsRelation, rfl⟩
      exact ⟨.related total related, Total.ofJson_eq_ok_iff.mpr (.inr ⟨_, rfl, read⟩), rfl⟩

theorem TotalReported.of_read
    {found : Json}
    {read : Total}
    (decoded : Total.ofJson found = .ok read) :
    TotalReported read.value found := by
  rcases Total.ofJson_eq_ok_iff.mp decoded with ⟨count, rfl, rfl⟩ | ⟨members, rfl, decodedToo⟩
  · exact .integer
  · obtain ⟨value, relation, ⟨held, present, decodedHeld⟩, readsRelation, rfl⟩ :=
      Total.ofMembers_eq_ok_iff.mp decodedToo
    cases unsigned_eq_ok_iff.mp decodedHeld
    refine .related present ?_
    exact readsRelation.admits fun _ => nullable_reads_iff string_reads_iff

theorem exists_total_iff {found : Json} :
    (∃ read, Total.ofJson found = .ok read) ↔ ∃ total, TotalReported total found := by
  constructor
  · rintro ⟨read, decoded⟩
    exact ⟨read.value, .of_read decoded⟩
  · rintro ⟨total, reported⟩
    obtain ⟨read, decoded, _⟩ := reported.reads
    exact ⟨read, decoded⟩

variable {members : Members}

theorem Hit.exists_readFrom_iff :
    (∃ hit : Hit, hit.ReadFrom members) ↔ Hit.Readable members := by
  constructor
  · rintro ⟨hit, reads⟩
    obtain ⟨found, present, _⟩ := reads.id
    constructor
    case id =>
      exact ⟨found, present⟩
    case index =>
      exact reads.index.admits fun _ => string_reads_iff
    case type =>
      exact reads.type.admits fun _ => nullable_reads_iff string_reads_iff
    case score =>
      exact reads.score.admits fun _ => nullable_reads_iff float_reads_iff
    case source =>
      exact reads.source.admits fun _ => members_reads_iff
  · intro readable
    obtain ⟨id, present⟩ := readable.id
    obtain ⟨index, readsIndex⟩ := readable.index.reads fun _ => string_reads_iff
    obtain ⟨type, readsType⟩ :=
      readable.type.reads fun _ => nullable_reads_iff string_reads_iff
    obtain ⟨score, readsScore⟩ :=
      readable.score.reads fun _ => nullable_reads_iff float_reads_iff
    obtain ⟨source, readsSource⟩ := readable.source.reads fun _ => members_reads_iff
    obtain ⟨explanation, readsExplanation⟩ := exists_reads_anything members "_explanation"
    -- The identifier is read as its text, whatever form it has.
    exact
      ⟨{ index := index
         type := type
         id := id.keyText
         score := score
         source := source
         explanation := explanation },
        readsIndex, readsType, ⟨id, present, rfl⟩, readsScore, readsSource, readsExplanation⟩

/-- An array of objects is read as hits if each of them is. -/
theorem Hit.exists_list_iff
    {value : Json}
    (objects : value.IsArrayOf Json.IsObject) :
    (∃ hits, Decode.list Hit.ofJson value = .ok hits) ↔
      value.IsArrayOf (Json.IsObjectOf Hit.Readable) := by
  obtain ⟨items, rfl, each⟩ := objects
  rw [Json.isArrayOf_array_iff, Decode.list, exists_items_iff]
  refine forall₂_congr fun item listed => ?_
  obtain ⟨held, rfl⟩ := each item listed
  rw [Json.isObjectOf_object_iff, ← Hit.exists_readFrom_iff]
  simp only [Hit.ofJson_object_eq_ok_iff]

theorem HitList.exists_readFrom_iff
    (objects : HitList.HoldsObjects members) :
    (∃ list : HitList, list.ReadFrom members) ↔ HitList.Readable members := by
  have hits :
      (∃ hits, members.Reads "hits" [] (Decode.list Hit.ofJson) hits) ↔
        members.Admits "hits" (Json.IsArrayOf (Json.IsObjectOf Hit.Readable)) :=
    Members.exists_reads_iff_admits_of_held fun found present =>
      Hit.exists_list_iff (objects found present)
  constructor
  · rintro ⟨list, reads⟩
    constructor
    case total =>
      exact reads.total.admits fun _ => exists_total_iff
    case maxScore =>
      exact reads.maxScore.admits fun _ => nullable_reads_iff float_reads_iff
    case hits =>
      exact hits.mp ⟨list.hits, reads.hits⟩
  · intro readable
    obtain ⟨total, readsTotal⟩ := readable.total.reads fun _ => exists_total_iff
    obtain ⟨maxScore, readsMaxScore⟩ :=
      readable.maxScore.reads fun _ => nullable_reads_iff float_reads_iff
    obtain ⟨listed, readsListed⟩ := hits.mpr readable.hits
    exact
      ⟨{ total := total, maxScore := maxScore, hits := listed },
        readsTotal, readsMaxScore, readsListed⟩

theorem Response.exists_readFrom_iff
    (objects : Response.HoldsObjects members) :
    (∃ response : Response, response.ReadFrom members) ↔ Response.Readable members := by
  have hits :
      (∃ list, members.Reads "hits" HitList.empty HitList.ofJson list) ↔
        members.Admits "hits" (Json.IsObjectOf HitList.Readable) := by
    refine Members.exists_reads_iff_admits_of_held fun found present => ?_
    obtain ⟨held, rfl, holdsObjects⟩ := objects found present
    rw [Json.isObjectOf_object_iff, ← HitList.exists_readFrom_iff holdsObjects]
    simp only [HitList.ofJson_object_eq_ok_iff]
  constructor
  · rintro ⟨response, reads⟩
    constructor
    case took =>
      exact reads.took.admits fun _ => unsigned_reads_iff
    case timedOut =>
      exact reads.timedOut.admits fun _ => boolean_reads_iff
    case hits =>
      exact hits.mp ⟨response.hits, reads.hits⟩
  · intro readable
    obtain ⟨took, readsTook⟩ := readable.took.reads fun _ => unsigned_reads_iff
    obtain ⟨timedOut, readsTimedOut⟩ := readable.timedOut.reads fun _ => boolean_reads_iff
    obtain ⟨list, readsList⟩ := hits.mpr readable.hits
    obtain ⟨profile, readsProfile⟩ := exists_reads_anything members "profile"
    exact
      ⟨{ took := took, timedOut := timedOut, hits := list, profile := profile },
        readsTook, readsTimedOut, readsList, readsProfile⟩

/-! What is read of the hits and their total. -/

/-- A hit is read with the text of its identifier and with its stored fields. -/
theorem Hit.ReadFrom.taken
    {hit : Hit}
    (reads : hit.ReadFrom members) :
    ((Json.object members).member? "_id").map Json.keyText = some hit.id ∧
      (Json.object members).membersAt ["_source"] = hit.source := by
  constructor
  · obtain ⟨found, present, text⟩ := reads.id
    rw [Json.member?, present, Option.map_some, text]
  · have read := reads.source
    generalize hit.source = source at read ⊢
    cases read with
    | held present decoded =>
        cases members_eq_ok_iff.mp decoded
        simp [Json.membersAt, present]
    | default lacking =>
        simp [Json.membersAt, lacking]

theorem Hit.taken_of_read
    {items : List Json}
    {hits : List Hit}
    (objects : ∀ item ∈ items, item.IsObject)
    (read : List.Forall₂ (fun item hit => Hit.ofJson item = .ok hit) items hits) :
    items.map (fun item => (item.member? "_id").map Json.keyText) =
        hits.map (fun hit => some hit.id) ∧
      items.map (Json.membersAt ["_source"]) = hits.map Hit.source := by
  induction read with
  | nil =>
      exact ⟨rfl, rfl⟩
  | cons first rest inductionHypothesis =>
      obtain ⟨isObject, objectsRest⟩ := List.forall_mem_cons.mp objects
      obtain ⟨members, rfl⟩ := isObject
      obtain ⟨id, source⟩ := (Hit.ofJson_object_eq_ok_iff.mp first).taken
      obtain ⟨ids, sources⟩ := inductionHypothesis objectsRest
      simp [id, source, ids, sources]

theorem HitList.ReadFrom.listed
    {list : HitList}
    (reads : list.ReadFrom members) :
    List.Forall₂ (fun item hit => Hit.ofJson item = .ok hit)
      ((Json.object members).itemsAt ["hits"]) list.hits := by
  have read := reads.hits
  generalize list.hits = hits at read ⊢
  cases read with
  | held present decoded =>
      obtain ⟨items, rfl, each⟩ := list_eq_ok_iff.mp decoded
      simpa [Json.itemsAt, present] using each
  | default lacking =>
      simp [Json.itemsAt, lacking]

theorem HitList.ReadFrom.counted
    {list : HitList}
    (reads : list.ReadFrom members) :
    (∀ found,
      Members.find? "total" members = some found →
      TotalReported list.total.value found) ∧
      (Members.find? "total" members = none → list.total.value = 0) := by
  have read := reads.total
  generalize list.total = total at read ⊢
  cases read with
  | held present decoded =>
      rw [present]
      refine ⟨?_, by simp⟩
      rintro found ⟨⟩
      exact .of_read decoded
  | default lacking =>
      rw [lacking]
      exact ⟨by simp, fun _ => rfl⟩

theorem HitList.HoldsObjects.items
    (objects : HitList.HoldsObjects members) :
    ∀ item ∈ (Json.object members).itemsAt ["hits"], item.IsObject := by
  cases asked : Members.find? "hits" members with
  | none =>
      simp [Json.itemsAt, asked]
  | some found =>
      obtain ⟨items, rfl, each⟩ := objects found asked
      simpa [Json.itemsAt, asked] using each

/-- A response takes what it says of hits from the object that it is read from. -/
theorem Response.ReadFrom.taken
    {response : Response}
    (objects : Response.HoldsObjects members)
    (reads : response.ReadFrom members) :
    response.TakenFrom (.object members) := by
  obtain ⟨took, timedOut, list, profile⟩ := response
  cases reads.hits with
  | held present decoded =>
      obtain ⟨held, rfl, holdsObjects⟩ := objects _ present
      have readsList := HitList.ofJson_object_eq_ok_iff.mp decoded
      have items :
          (Json.object members).itemsAt ["hits", "hits"] =
            (Json.object held).itemsAt ["hits"] := by
        simp [Json.itemsAt, present]
      have total :
          (Json.object members).at? ["hits", "total"] = Members.find? "total" held := by
        simp [present]
      obtain ⟨ids, sources⟩ := Hit.taken_of_read holdsObjects.items readsList.listed
      obtain ⟨counted, uncounted⟩ := readsList.counted
      constructor
      case hits =>
        rw [items]
        exact readsList.listed
      case ids =>
        rw [items, ids, Response.ids, List.map_map]
        rfl
      case sources =>
        rw [items, sources]
      case counted =>
        rw [total]
        exact counted
      case uncounted =>
        rw [total]
        exact uncounted
  | default lacking =>
      constructor <;>
        simp [Json.itemsAt, lacking, Response.ids, Response.total, Total.value]

namespace Response

/--
For every object that holds its hits as objects: it is read as a response exactly
if all that is looked for in it can be read.  The hits of the response are then
those of the object, in their order, each read by itself, with the text of its
identifier and its stored fields; the total is the reported one, or zero.
-/
theorem read_iff_readable
    (members : Members)
    (objects : HoldsObjects members) :
    ((∃ response, ofJson (.object members) = .ok response) ↔ Readable members) ∧
      ∀ response,
        ofJson (.object members) = .ok response →
        response.TakenFrom (.object members) := by
  simp only [ofJson_object_eq_ok_iff]
  exact ⟨exists_readFrom_iff objects, fun _ reads => reads.taken objects⟩

/-- Three identifiers that are no strings are read; an index that is `null` is not. -/
theorem odd_identifiers_are_read :
    let hits (index : Json) : Json :=
      .array [
        .object [
          ("_id", .number (.natural 7)),
          ("_index", index),
          ("_type", .null),
          ("sort", .array [])],
        .object [("_id", .null), ("_score", .number (.natural 2))],
        .object [("_id", .array [.boolean true]), ("_source", .object [("price", .null)])]]
    let members (index : Json) : Members :=
      [("_shards", .null),
        ("hits", .object [
          ("hits", hits index),
          ("max_score", .null),
          ("total", .object [("relation", .null), ("value", .number (.natural 3))])]),
        ("profile", .boolean false)]
    HoldsObjects (members (.string "shop")) ∧
      HoldsObjects (members .null) ∧
      Readable (members (.string "shop")) ∧
      (∃ response,
        ofJson (.object (members (.string "shop"))) = .ok response ∧
          response.ids = ["7", "null", "[true]"] ∧
          response.hits.hits.map Hit.source = [[], [], [("price", .null)]] ∧
          response.total = 3) ∧
      ¬ ∃ response, ofJson (.object (members .null)) = .ok response := by
  intro hits members
  have objects (index : Json) : HoldsObjects (members index) := by
    simp [members, hits, HoldsObjects, HitList.HoldsObjects, Members.Admits, Members.find?,
      Json.IsObject]
  obtain ⟨read, taken⟩ := read_iff_readable (members (.string "shop")) (objects _)
  obtain ⟨refused, _⟩ := read_iff_readable (members .null) (objects _)
  have readable : Readable (members (.string "shop")) :=
    read.mp ⟨_, rfl⟩
  refine ⟨objects _, objects _, readable, ?_, ?_⟩
  · obtain ⟨response, reads⟩ := read.mpr readable
    have told := taken response reads
    have ids : response.ids.map some = ["7", "null", "[true]"].map some :=
      told.ids.symm
    refine ⟨response, reads, ?_, told.sources.symm, ?_⟩
    · exact (List.map_inj_right fun _ _ => Option.some.inj).mp ids
    · cases told.counted _ rfl with
      | related value relation =>
          have same : some (Json.ofUInt64 3) = some (Json.ofUInt64 response.total) :=
            value
          simpa [Json.ofUInt64, eq_comm] using same
  · rw [refused]
    intro readable
    obtain ⟨list, same, readableList⟩ := readable.hits _ rfl
    cases same
    obtain ⟨items, same, each⟩ := readableList.hits _ rfl
    cases same
    obtain ⟨hit, same, readableHit⟩ := each _ List.mem_cons_self
    cases same
    obtain ⟨text, same⟩ := readableHit.index _ rfl
    cases same

end Response

end Retrieval
