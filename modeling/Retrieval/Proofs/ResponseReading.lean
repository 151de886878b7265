import Retrieval.Proofs.Decoding
import Retrieval.Response

namespace Retrieval

/-!
# What a response is read from

A response, its list of hits and each hit are read from an object by reading all
of their fields.  A total is read from an integer, or from an object that holds
one beside the relation of the total to the number of matches.
-/

open Decode

/-- The fields of a hit are read from the members of an object. -/
structure Hit.ReadFrom (hit : Hit) (members : Members) : Prop where
  index : members.Reads "_index" "" string hit.index
  type : members.Reads "_type" none (nullable string) hit.type
  id : ∃ found, Members.find? "_id" members = some found ∧ found.keyText = hit.id
  score : members.Reads "_score" none (nullable float) hit.score
  source : members.Reads "_source" [] Decode.members hit.source
  explanation : members.Reads "_explanation" none (nullable anything) hit.explanation

/-- The fields of a list of hits are read from the members of an object. -/
structure HitList.ReadFrom (list : HitList) (members : Members) : Prop where
  total : members.Reads "total" (.count 0) Total.ofJson list.total
  maxScore : members.Reads "max_score" none (nullable float) list.maxScore
  hits : members.Reads "hits" [] (Decode.list Hit.ofJson) list.hits

/-- The fields of a response are read from the members of an object. -/
structure Response.ReadFrom (response : Response) (members : Members) : Prop where
  took : members.Reads "took" 0 (unsigned .unsigned) response.took
  timedOut : members.Reads "timed_out" false boolean response.timedOut
  hits : members.Reads "hits" HitList.empty HitList.ofJson response.hits
  profile : members.Reads "profile" none (nullable anything) response.profile

variable {members : Members}

theorem Hit.ofJson_object_eq_ok_iff {hit : Hit} :
    Hit.ofJson (.object members) = .ok hit ↔ hit.ReadFrom members := by
  simp only [Hit.ofJson, Source.ofJson, bind_eq_ok_iff, Except.ok.injEq, exists_eq_left',
    Source.check_members_eq_ok_iff, List.append_eq_nil_iff, Source.fault_eq_nil_iff,
    Source.optional_members_eq_ok_iff, Source.required_members_eq_ok_iff, idOfJson, pure,
    Except.pure]
  constructor
  · rintro
      ⟨_, _, index, readsIndex, type, readsType, id, readsId, score, readsScore, source,
        readsSource, explanation, readsExplanation, rfl⟩
    exact ⟨readsIndex, readsType, readsId, readsScore, readsSource, readsExplanation⟩
  · intro reads
    refine ⟨(), ⟨⟨⟨⟨⟨?_, ?_⟩, ?_⟩, ?_⟩, ?_⟩, ?_⟩, ?_⟩
    · exact ⟨_, reads.index⟩
    · exact ⟨_, reads.type⟩
    · exact ⟨_, reads.id⟩
    · exact ⟨_, reads.score⟩
    · exact ⟨_, reads.source⟩
    · exact ⟨_, reads.explanation⟩
    · exact
        ⟨_, reads.index, _, reads.type, _, reads.id, _, reads.score, _, reads.source, _,
          reads.explanation, rfl⟩

theorem HitList.ofJson_object_eq_ok_iff {list : HitList} :
    HitList.ofJson (.object members) = .ok list ↔ list.ReadFrom members := by
  simp only [HitList.ofJson, Source.ofJson, bind_eq_ok_iff, Except.ok.injEq, exists_eq_left',
    Source.check_members_eq_ok_iff, List.append_eq_nil_iff, Source.fault_eq_nil_iff,
    Source.optional_members_eq_ok_iff, pure, Except.pure]
  constructor
  · rintro ⟨_, _, total, readsTotal, maxScore, readsMaxScore, hits, readsHits, rfl⟩
    exact ⟨readsTotal, readsMaxScore, readsHits⟩
  · intro reads
    refine ⟨(), ⟨⟨?_, ?_⟩, ?_⟩, ?_⟩
    · exact ⟨_, reads.total⟩
    · exact ⟨_, reads.maxScore⟩
    · exact ⟨_, reads.hits⟩
    · exact ⟨_, reads.total, _, reads.maxScore, _, reads.hits, rfl⟩

theorem Response.ofJson_object_eq_ok_iff {response : Response} :
    Response.ofJson (.object members) = .ok response ↔ response.ReadFrom members := by
  simp only [Response.ofJson, Source.ofJson, bind_eq_ok_iff, Except.ok.injEq, exists_eq_left',
    Source.check_members_eq_ok_iff, List.append_eq_nil_iff, Source.fault_eq_nil_iff,
    Source.optional_members_eq_ok_iff, pure, Except.pure]
  constructor
  · rintro
      ⟨_, _, took, readsTook, timedOut, readsTimedOut, hits, readsHits, profile, readsProfile,
        rfl⟩
    exact ⟨readsTook, readsTimedOut, readsHits, readsProfile⟩
  · intro reads
    refine ⟨(), ⟨⟨⟨?_, ?_⟩, ?_⟩, ?_⟩, ?_⟩
    · exact ⟨_, reads.took⟩
    · exact ⟨_, reads.timedOut⟩
    · exact ⟨_, reads.hits⟩
    · exact ⟨_, reads.profile⟩
    · exact ⟨_, reads.took, _, reads.timedOut, _, reads.hits, _, reads.profile, rfl⟩

theorem Total.ofMembers_eq_ok_iff {total : Total} :
    Total.ofMembers members = .ok total ↔
      ∃ value relation,
        (∃ found,
          Members.find? "value" members = some found ∧ unsigned .unsigned found = .ok value) ∧
          members.Reads "relation" none (nullable string) relation ∧
          total = .related value relation := by
  simp only [Total.ofMembers, bind_eq_ok_iff, Except.ok.injEq, Source.check_members_eq_ok_iff,
    List.append_eq_nil_iff, Source.fault_eq_nil_iff, Source.optional_members_eq_ok_iff,
    Source.required_members_eq_ok_iff, pure, Except.pure]
  constructor
  · rintro ⟨_, _, value, readsValue, relation, readsRelation, rfl⟩
    exact ⟨value, relation, readsValue, readsRelation, rfl⟩
  · rintro ⟨value, relation, readsValue, readsRelation, rfl⟩
    refine ⟨(), ⟨?_, ?_⟩, ?_⟩
    · exact ⟨_, readsValue⟩
    · exact ⟨_, readsRelation⟩
    · exact ⟨_, readsValue, _, readsRelation, rfl⟩

/-- A total is read from an integer or from the members of an object. -/
theorem Total.ofJson_eq_ok_iff {value : Json} {total : Total} :
    Total.ofJson value = .ok total ↔
      (∃ count, value = Json.ofUInt64 count ∧ total = .count count) ∨
        ∃ members, value = .object members ∧ Total.ofMembers members = .ok total := by
  cases value with
  | number held =>
      cases held <;>
        simp [Total.ofJson, unsigned, Except.map, Except.mapError, Json.ofUInt64, eq_comm]
  | object members =>
      cases read : Total.ofMembers members <;>
        simp [Total.ofJson, Except.mapError, Json.ofUInt64, read]
  | _ =>
      simp [Total.ofJson, unsigned, Except.map, Except.mapError, Json.ofUInt64]

/-- What a hit is read to say about its score is what its member says. -/
theorem Hit.ReadFrom.said_explanation_iff
    {hit : Hit}
    (reads : hit.ReadFrom members)
    (explanation : Json) :
    Json.Said hit.explanation explanation ↔
      Json.Said (Members.find? "_explanation" members) explanation := by
  have read := reads.explanation
  generalize hit.explanation = shown at read ⊢
  cases read with
  | held present decoded =>
      rw [present]
      rcases nullable_eq_ok_iff.mp decoded with ⟨rfl, rfl⟩ | ⟨_, held, decodedHeld, rfl⟩
      · constructor
        · rintro ⟨absent, _⟩
          cases absent
        · rintro ⟨same, speaks, _⟩
          cases same
          exact absurd rfl speaks
      · cases decodedHeld
        rfl
  | default lacking =>
      rw [lacking]

end Retrieval
