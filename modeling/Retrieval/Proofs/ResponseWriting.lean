import Mathlib.Data.List.Forall2
import Retrieval.Proofs.FiniteFloats
import Retrieval.Proofs.ResponseReading
import Retrieval.Proofs.WellFormedJson
import Retrieval.Results

namespace Retrieval

/-!
# Responses that are written and read again

A response is written by the same rules that it is read by, with two
exceptions: a float that is not finite and an absent value are both written as
`null`, and `null` is read as an absent value.  So a response is read as it was
written, but for a `null` that stands for what is said about it.  No view shows
the difference.
-/

namespace Hit

/-- The score of a hit is a finite float, if there is one. -/
def FiniteScore (hit : Hit) : Prop :=
  ∀ score ∈ hit.score, score.isFinite = true

/-- The explanation of a hit is not `null`; it may be absent. -/
def NullFree (hit : Hit) : Prop :=
  hit.explanation ≠ some .null

/-- A hit without an explanation that is `null`. -/
def withoutNull (hit : Hit) : Hit :=
  { hit with explanation := Json.unlessNull hit.explanation }

/-- What remains of a hit when it is written: neither `null` nor a score that is not finite. -/
def rewritten (hit : Hit) : Hit :=
  { hit.withoutNull with score := hit.score.filter Float.isFinite }

end Hit

namespace HitList

/-- All scores of a list of hits are finite floats. -/
structure FiniteScores (list : HitList) : Prop where
  maxScore : ∀ score ∈ list.maxScore, score.isFinite = true
  hits : ∀ hit ∈ list.hits, hit.FiniteScore

/-- No hit of a list has an explanation that is `null`. -/
def NullFree (list : HitList) : Prop :=
  ∀ hit ∈ list.hits, hit.NullFree

/-- A list of hits without an explanation that is `null`. -/
def withoutNulls (list : HitList) : HitList :=
  { list with hits := list.hits.map Hit.withoutNull }

/-- What remains of a list of hits when it is written. -/
def rewritten (list : HitList) : HitList :=
  { list with
    maxScore := list.maxScore.filter Float.isFinite
    hits := list.hits.map Hit.rewritten }

end HitList

namespace Response

/-- Neither the profile of a response nor the explanation of a hit is `null`. -/
structure NullFree (response : Response) : Prop where
  hits : response.hits.NullFree
  profile : response.profile ≠ some .null

/-- A response whose `null` profile and `null` explanations are absent instead. -/
def withoutNulls (response : Response) : Response :=
  { response with
    hits := response.hits.withoutNulls
    profile := Json.unlessNull response.profile }

/-- What remains of a response when it is written. -/
def rewritten (response : Response) : Response :=
  { response with
    hits := response.hits.rewritten
    profile := Json.unlessNull response.profile }

end Response

open Decode

/-! What a decoder reads from well-formed values. -/

/-- All fields of a record are well-formed. -/
def Decode.Source.WellFormed (source : Source) : Prop :=
  ∀ name position found, source.field? name position = some found → found.WellFormed

/-- From well-formed values a decoder reads nothing but values of a kind. -/
def Decode.Yields (decode : Json → Decoded α) (kind : α → Prop) : Prop :=
  ∀ found value, found.WellFormed → decode found = .ok value → kind value

namespace Decode

variable {decode : Json → Decoded α} {kind : α → Prop}

theorem Source.ofJson_wellFormed
    {record : String}
    {value : Json}
    {source : Source}
    (wellFormed : value.WellFormed)
    (opened : Source.ofJson record value = .ok source) :
    source.WellFormed := by
  intro name position found present
  cases wellFormed with
  | array each =>
      cases opened
      exact each found (List.mem_of_getElem? present)
  | object each =>
      cases opened
      exact each (name, found) (Members.mem_of_find? present)
  | _ =>
      cases opened

theorem float_yields_finite : Yields float fun value => value.isFinite = true := by
  intro found value wellFormed read
  cases wellFormed with
  | number finite =>
      cases read
      exact Number.isFinite_toFloat finite
  | _ =>
      cases read

theorem nullable_anything_yields_ne_null : Yields (nullable anything) (· ≠ some .null) := by
  rintro found value - read rfl
  rcases nullable_eq_ok_iff.mp read with ⟨_, absent⟩ | ⟨speaks, held, readHeld, same⟩
  · cases absent
  · cases readHeld
    cases same
    exact speaks rfl

theorem Yields.nullable
    (yields : Yields decode kind) :
    Yields (nullable decode) fun value => ∀ held ∈ value, kind held := by
  rintro found _ wellFormed read held isHeld
  rcases nullable_eq_ok_iff.mp read with ⟨_, rfl⟩ | ⟨_, value, readValue, rfl⟩
  · cases isHeld
  · cases isHeld
    exact yields found held wellFormed readValue

theorem Yields.list
    (yields : Yields decode kind) :
    Yields (list decode) fun values => ∀ value ∈ values, kind value := by
  intro found values wellFormed read value member
  obtain ⟨held, rfl, reads⟩ := list_eq_ok_iff.mp read
  cases wellFormed with
  | array each =>
      obtain ⟨position, bounded, rfl⟩ := List.getElem_of_mem member
      have heldBounded : position < held.length := by
        rw [reads.length_eq]
        exact bounded
      exact
        yields held[position] values[position] (each _ (List.getElem_mem heldBounded))
          (reads.get heldBounded bounded)

theorem Yields.optional
    (yields : Yields decode kind)
    {source : Source}
    (wellFormed : source.WellFormed)
    {name : String}
    {position : Nat}
    {absent value : α}
    (holds : kind absent)
    (read : source.optional name position absent decode = .ok value) :
    kind value := by
  rw [Source.optional] at read
  split at read
  · next found present =>
    exact yields found value (wellFormed name position found present) read
  · cases read
    exact holds

end Decode

/-- A hit that was read has a finite score, if any, and no explanation that is `null`. -/
theorem Hit.ofJson_yields :
    Yields Hit.ofJson fun hit => hit.FiniteScore ∧ hit.NullFree := by
  intro found hit wellFormed read
  simp only [Hit.ofJson, bind_eq_ok_iff] at read
  obtain
    ⟨source, opened, _, _, index, _, type, _, id, _, score, readScore, fields, _, explanation,
      readExplanation, made⟩ := read
  cases made
  have sound := Source.ofJson_wellFormed wellFormed opened
  constructor
  · exact float_yields_finite.nullable.optional sound (by simp) readScore
  · exact nullable_anything_yields_ne_null.optional sound (by simp) readExplanation

theorem HitList.ofJson_yields :
    Yields HitList.ofJson fun list => list.FiniteScores ∧ list.NullFree := by
  intro found list wellFormed read
  simp only [HitList.ofJson, bind_eq_ok_iff] at read
  obtain ⟨source, opened, _, _, total, _, maxScore, readMaxScore, hits, readHits, made⟩ := read
  cases made
  have sound := Source.ofJson_wellFormed wellFormed opened
  have each := Hit.ofJson_yields.list.optional sound (by simp) readHits
  refine ⟨⟨?_, fun hit member => (each hit member).1⟩, fun hit member => (each hit member).2⟩
  exact float_yields_finite.nullable.optional sound (by simp) readMaxScore

theorem Response.ofJson_yields :
    Yields Response.ofJson fun response =>
      response.hits.FiniteScores ∧ response.NullFree := by
  intro found response wellFormed read
  simp only [Response.ofJson, bind_eq_ok_iff] at read
  obtain
    ⟨source, opened, _, _, took, _, timedOut, _, hits, readHits, profile, readProfile, made⟩ :=
    read
  cases made
  have sound := Source.ofJson_wellFormed wellFormed opened
  have empty : HitList.empty.FiniteScores ∧ HitList.empty.NullFree := by
    refine ⟨⟨?_, ?_⟩, ?_⟩ <;> simp [HitList.empty, HitList.NullFree]
  obtain ⟨finite, nullFree⟩ := HitList.ofJson_yields.optional sound empty readHits
  refine ⟨finite, nullFree, ?_⟩
  exact nullable_anything_yields_ne_null.optional sound (by simp) readProfile

/-! What is read of the values that are written. -/

/-- A score that is not finite is written as `null`, and so is read as an absent one. -/
theorem Decode.nullable_float_ofOption (score : Option Float) :
    nullable float (Json.ofOption (score.map Json.ofFloat)) =
      .ok (score.filter Float.isFinite) := by
  cases score with
  | none =>
      rfl
  | some value =>
      cases finite : value.isFinite with
      | true =>
          simp [Json.ofOption, Json.ofFloat, finite, nullable, float, Number.toFloat,
            Except.map, Option.filter]
      | false =>
          simp [Json.ofOption, Json.ofFloat, finite, nullable, Option.filter]

theorem Total.ofJson_toJson (total : Total) :
    Total.ofJson total.toJson = .ok total := by
  cases total with
  | count value =>
      rfl
  | related value relation =>
      refine Total.ofJson_eq_ok_iff.mpr (.inr ⟨_, rfl, ?_⟩)
      refine Total.ofMembers_eq_ok_iff.mpr ⟨value, relation, ⟨_, rfl, rfl⟩, ?_, rfl⟩
      refine .held rfl (nullable_ofOption ?_ ?_)
      · exact fun _ => Json.noConfusion
      · exact fun _ => rfl

theorem Hit.ofJson_toJson (hit : Hit) :
    Hit.ofJson hit.toJson = .ok hit.rewritten := by
  rw [Hit.toJson, Hit.ofJson_object_eq_ok_iff]
  constructor
  case index =>
    exact .held rfl rfl
  case type =>
    refine Members.reads_written (?_ : _ = hit.type.map Json.string) fun _ => rfl
    simp [Members.find?, Members.find?_append, Members.find?_optional,
      Members.find?_optional_value]
  case id =>
    refine ⟨.string hit.id, ?_, rfl⟩
    simp [Members.find?, Members.find?_append, Members.find?_optional]
  case score =>
    refine .held ?_ (nullable_float_ofOption hit.score)
    simp [Members.find?, Members.find?_append, Members.find?_optional]
  case source =>
    refine .held (?_ : _ = some (.object hit.source)) rfl
    simp [Members.find?, Members.find?_append, Members.find?_optional]
  case explanation =>
    apply Members.reads_anything
    simp [Members.find?, Members.find?_append, Members.find?_optional,
      Members.find?_optional_value]

theorem HitList.ofJson_toJson (list : HitList) :
    HitList.ofJson list.toJson = .ok list.rewritten := by
  refine HitList.ofJson_object_eq_ok_iff.mpr ⟨?_, ?_, ?_⟩
  · exact .held rfl (Total.ofJson_toJson list.total)
  · exact .held rfl (nullable_float_ofOption list.maxScore)
  · exact .held rfl (items_map Hit.ofJson_toJson list.hits)

theorem Response.ofJson_toJson (response : Response) :
    Response.ofJson response.toJson = .ok response.rewritten := by
  rw [Response.toJson, Response.ofJson_object_eq_ok_iff]
  constructor
  case took =>
    exact .held rfl rfl
  case timedOut =>
    exact .held rfl rfl
  case hits =>
    exact .held rfl (HitList.ofJson_toJson response.hits)
  case profile =>
    apply Members.reads_anything
    simp [Members.find?, Members.find?_optional_value]

/-! What a response loses when it is written. -/

/-- A finite score is not lost. -/
theorem FiniteFloat.filter_eq_self
    {score : Option Float}
    (finite : ∀ value ∈ score, value.isFinite = true) :
    score.filter Float.isFinite = score := by
  cases score with
  | none =>
      rfl
  | some value =>
      exact Option.filter_some_pos (finite value rfl)

theorem Hit.rewritten_of_finite
    {hit : Hit}
    (finite : hit.FiniteScore) :
    hit.rewritten = hit.withoutNull := by
  rw [rewritten, FiniteFloat.filter_eq_self finite]
  rfl

theorem HitList.rewritten_of_finite
    {list : HitList}
    (finite : list.FiniteScores) :
    list.rewritten = list.withoutNulls := by
  have hits : list.hits.map Hit.rewritten = list.hits.map Hit.withoutNull :=
    List.map_congr_left fun hit member => Hit.rewritten_of_finite (finite.hits hit member)
  rw [rewritten, withoutNulls, hits, FiniteFloat.filter_eq_self finite.maxScore]

/-- A response with finite scores loses nothing but what is `null`. -/
theorem Response.rewritten_of_finite
    {response : Response}
    (finite : response.hits.FiniteScores) :
    response.rewritten = response.withoutNulls := by
  rw [rewritten, withoutNulls, HitList.rewritten_of_finite finite]

theorem Response.ofJson_toJson_of_finite
    {response : Response}
    (finite : response.hits.FiniteScores) :
    ofJson response.toJson = .ok response.withoutNulls := by
  rw [ofJson_toJson, rewritten_of_finite finite]

theorem Hit.withoutNull_eq_self_iff {hit : Hit} :
    hit.withoutNull = hit ↔ hit.NullFree := by
  cases hit
  simp [withoutNull, NullFree, Json.unlessNull_eq_self_iff]

theorem HitList.withoutNulls_eq_self_iff {list : HitList} :
    list.withoutNulls = list ↔ list.NullFree := by
  cases list with
  | mk total maxScore hits =>
      have unchanged : hits.map Hit.withoutNull = hits ↔ ∀ hit ∈ hits, hit.NullFree := by
        induction hits with
        | nil =>
            simp
        | cons first rest inductionHypothesis =>
            simp [Hit.withoutNull_eq_self_iff, inductionHypothesis]
      simp [withoutNulls, NullFree, unchanged]

theorem Response.withoutNulls_eq_self_iff {response : Response} :
    response.withoutNulls = response ↔ response.NullFree := by
  cases response with
  | mk took timedOut hits profile =>
      simp only [withoutNulls, mk.injEq, true_and, HitList.withoutNulls_eq_self_iff,
        Json.unlessNull_eq_self_iff]
      constructor
      · rintro ⟨hits, profile⟩
        exact ⟨hits, profile⟩
      · rintro ⟨hits, profile⟩
        exact ⟨hits, profile⟩

/-- What is said about a score does not get lost. -/
theorem Hit.explanation?_rewritten (hit : Hit) :
    hit.rewritten.explanation? = hit.explanation? := by
  cases hit with
  | mk index type id score source explanation =>
      cases explanation with
      | none =>
          rfl
      | some value =>
          cases value <;> rfl

/-- A view shows of a response what remains when it is written. -/
theorem ResultView.map_rewritten
    {Record : Type}
    [Indexable Record]
    (view : ResultView)
    (response : Response)
    (repository : Repository Record) :
    view.map response.rewritten repository = view.map response repository := by
  have hits : response.rewritten.hits.hits = response.hits.hits.map Hit.rewritten :=
    rfl
  have total : response.rewritten.total = response.total :=
    rfl
  have ids : response.rewritten.ids = response.ids := by
    rw [Response.ids, hits, List.map_map]
    rfl
  have stored :
      (fun hit => ResultItem.stored (view.storedFields hit)) ∘ Hit.rewritten =
        fun hit => (ResultItem.stored (view.storedFields hit) : ResultItem Record) :=
    rfl
  have loaded (catalog : Catalog Record) :
      loaded? catalog ∘ Hit.rewritten = loaded? catalog := by
    funext hit
    rw [Function.comp_apply, loaded?, Hit.explanation?_rewritten]
    rfl
  have dropped (catalog : Catalog Record) :
      dropped? catalog ∘ Hit.rewritten = dropped? catalog :=
    rfl
  simp only [map, fetch, hits, total, ids, List.map_map, List.filterMap_map, stored, loaded,
    dropped]

namespace Response

/--
A response that was read can be written and is read again as it is.  Any
response with finite scores is read again as it was written, but for `null` in
the place of an explanation or a profile.  Whatever a response loses, no view of
it shows.
-/
theorem written_responses_read_back :
    (∀ (value : Json) (response : Response),
      value.WellFormed →
        ofJson value = .ok response →
          ofJson response.toJson = .ok response) ∧
    (∀ response : Response,
      response.hits.FiniteScores →
        ofJson response.toJson = .ok response.withoutNulls ∧
          (ofJson response.toJson = .ok response ↔ response.NullFree)) ∧
    ∀ response : Response, ∃ again,
      ofJson response.toJson = .ok again ∧
        ∀ (Record : Type) [Indexable Record] (view : ResultView)
          (repository : Repository Record),
          view.map again repository = view.map response repository := by
  refine ⟨?_, ?_, ?_⟩
  · intro value response wellFormed read
    obtain ⟨finite, nullFree⟩ := ofJson_yields value response wellFormed read
    rw [ofJson_toJson_of_finite finite, withoutNulls_eq_self_iff.mpr nullFree]
  · intro response finite
    have reads := ofJson_toJson_of_finite finite
    refine ⟨reads, ?_⟩
    rw [reads, Except.ok.injEq, withoutNulls_eq_self_iff]
  · intro response
    refine ⟨response.rewritten, ofJson_toJson response, ?_⟩
    intro Record _ view repository
    exact view.map_rewritten response repository

/-- A response in the form of an array, whose scores are integers, is read again. -/
theorem array_response_reads_back :
    let best := Number.toFloat (.natural 3)
    let hit : Hit := { Hit.make "7" [] with score := some best }
    let value : Json :=
      .array [
        .number (.natural 4),
        .boolean true,
        .object [
          ("max_score", .number (.natural 3)),
          ("total", .object [("value", .number (.natural 1))]),
          ("hits", .array [
            .object [
              ("_explanation", .null),
              ("_id", .number (.natural 7)),
              ("_score", .number (.natural 3))]])]]
    let response : Response := {
      took := 4
      timedOut := true
      hits := { total := .related 1 none, maxScore := some best, hits := [hit] }
      profile := none }
    let noted : Response :=
      { response with hits := { response.hits with hits := [hit.withExplanation .null] } }
    value.WellFormed ∧
      ofJson value = .ok response ∧
      ofJson response.toJson = .ok response ∧
      noted.hits.FiniteScores ∧
      ofJson noted.toJson = .ok response ∧
      ofJson noted.toJson ≠ .ok noted := by
  intro best hit value response noted
  have wellFormed : value.WellFormed := by
    simp [value, Number.isFinite]
  have read : ofJson value = .ok response := by
    rfl
  have bestFinite : best.isFinite = true :=
    FiniteFloat.isFinite_toFloat 3
  have finite : noted.hits.FiniteScores := by
    constructor <;> simp [noted, response, hit, Hit.withExplanation, Hit.FiniteScore, bestFinite]
  obtain ⟨readsBack, readsFinite, _⟩ := written_responses_read_back
  obtain ⟨withoutNull, iff⟩ := readsFinite noted finite
  refine ⟨wellFormed, read, readsBack value response wellFormed read, finite, withoutNull, ?_⟩
  rw [ne_eq, iff]
  intro nullFree
  exact nullFree.hits (hit.withExplanation .null) (by simp [noted]) rfl

end Response

end Retrieval
