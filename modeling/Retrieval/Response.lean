import Retrieval.Json.Decode

namespace Retrieval

/-!
# Search responses

A response lists the hits of a search, best first, with the number of all
matching documents.  Older search engines report that number as an integer and
newer ones as an object that also tells how exact it is.

Everything in a response may be left out but the identifier of a hit, which may
be any value: it is known by the text of that value as a key.
-/

/-- The number of matching documents, in either of its forms. -/
inductive Total where
  | count (value : UInt64)
  | related (value : UInt64) (relation : Option String)
  deriving Repr, DecidableEq

namespace Total

/-- The number itself, without what is said about it. -/
def value : Total → UInt64
  | .count value => value
  | .related value _ => value

/-- A total is written in the form in which it was read. -/
def toJson : Total → Json
  | .count value => Json.ofUInt64 value
  | .related value relation =>
      .object [
        ("value", Json.ofUInt64 value),
        ("relation", Json.ofOption (relation.map Json.string))]

/-- Read a total in the form of an object. -/
def ofMembers (members : Members) : Decoded Total := do
  let source := Decode.Source.members members
  let number := source.required "TotalHits" 2 "value" 0 (Decode.unsigned .unsigned)
  let relation := source.optional "relation" 1 none (Decode.nullable Decode.string)
  source.check 2 (source.fault "value" 0 number ++ source.fault "relation" 1 relation)
  return .related (← number) (← relation)

/-- Read a total in either form; what is wrong with each of them is not told. -/
def ofJson (value : Json) : Decoded Total :=
  let read :=
    match value with
    | .object members => ofMembers members
    | found => (Decode.unsigned .unsigned found).map .count
  read.mapError fun _ => .noForm "TotalHits"

end Total

/-- A document that matches a search. -/
structure Hit where
  index : String
  type : Option String
  id : String
  score : Option Float
  /-- The fields that are stored in the index. -/
  source : Members
  /-- What the search engine says about the score. -/
  explanation : Option Json
  deriving Repr, DecidableEq

namespace Hit

/-- A hit with an identifier and its stored fields. -/
def make (id : String) (source : Members) : Hit where
  index := ""
  type := none
  id := id
  score := none
  source := source
  explanation := none

/-- The hit with something said about its score. -/
def withExplanation (hit : Hit) (explanation : Json) : Hit :=
  { hit with explanation := some explanation }

/-- The explanation, unless it says nothing. -/
def explanation? (hit : Hit) : Option Json :=
  hit.explanation.filter fun explanation => !explanation.isBlank

/-- The hit as it is written; an absent type and an absent explanation are left out. -/
def toJson (hit : Hit) : Json :=
  .object
    (("_index", .string hit.index)
      :: ((hit.type.map fun type => ("_type", Json.string type)).toList
        ++ [("_id", .string hit.id),
            ("_score", Json.ofOption (hit.score.map Json.ofFloat)),
            ("_source", .object hit.source)]
        ++ (hit.explanation.map fun explanation => ("_explanation", explanation)).toList))

/-- Read an identifier: any value, by its text as a key. -/
def idOfJson (value : Json) : Decoded String :=
  .ok value.keyText

/-- Read a hit; only its identifier must be present. -/
def ofJson (value : Json) : Decoded Hit := do
  let held ← Decode.Source.ofJson "Hit" value
  let index := held.optional "_index" 0 "" Decode.string
  let type := held.optional "_type" 1 none (Decode.nullable Decode.string)
  let id := held.required "Hit" 6 "_id" 2 idOfJson
  let score := held.optional "_score" 3 none (Decode.nullable Decode.float)
  let source := held.optional "_source" 4 [] Decode.members
  let explanation := held.optional "_explanation" 5 none (Decode.nullable Decode.anything)
  held.check 6
    (held.fault "_index" 0 index
      ++ held.fault "_type" 1 type
      ++ held.fault "_id" 2 id
      ++ held.fault "_score" 3 score
      ++ held.fault "_source" 4 source
      ++ held.fault "_explanation" 5 explanation)
  return {
    index := ← index
    type := ← type
    id := ← id
    score := ← score
    source := ← source
    explanation := ← explanation }

end Hit

/-- The hits of a response and what is said of all of them. -/
structure HitList where
  total : Total
  maxScore : Option Float
  hits : List Hit
  deriving Repr, DecidableEq

namespace HitList

/-- The list without hits, which counts none. -/
def empty : HitList where
  total := .count 0
  maxScore := none
  hits := []

/-- The list as it is written, with all of its members. -/
def toJson (list : HitList) : Json :=
  .object [
    ("total", list.total.toJson),
    ("max_score", Json.ofOption (list.maxScore.map Json.ofFloat)),
    ("hits", .array (list.hits.map Hit.toJson))]

/-- Read a list of hits; each member that is left out takes its default. -/
def ofJson (value : Json) : Decoded HitList := do
  let source ← Decode.Source.ofJson "Hits" value
  let total := source.optional "total" 0 (.count 0) Total.ofJson
  let maxScore := source.optional "max_score" 1 none (Decode.nullable Decode.float)
  let hits := source.optional "hits" 2 [] (Decode.list Hit.ofJson)
  source.check 3
    (source.fault "total" 0 total
      ++ source.fault "max_score" 1 maxScore
      ++ source.fault "hits" 2 hits)
  return { total := ← total, maxScore := ← maxScore, hits := ← hits }

end HitList

/-- What a search is answered. -/
structure Response where
  /-- The duration of the search in milliseconds. -/
  took : UInt64
  timedOut : Bool
  hits : HitList
  /-- The timing of the search, when it was asked for. -/
  profile : Option Json
  deriving Repr, DecidableEq

namespace Response

/-- The response to a search that matches nothing. -/
def empty : Response where
  took := 0
  timedOut := false
  hits := HitList.empty
  profile := none

/-- The response that lists given hits and counts them. -/
def ofHits (hits : List Hit) : Response :=
  { empty with
    hits := { total := .count (UInt64.ofNat hits.length), maxScore := none, hits := hits } }

/-- The number of all documents that match, of which the hits may be a part. -/
def total (response : Response) : UInt64 :=
  response.hits.total.value

/-- The identifiers of the hits in their order. -/
def ids (response : Response) : List String :=
  response.hits.hits.map Hit.id

/-- The response as it is written; an absent profile is left out. -/
def toJson (response : Response) : Json :=
  .object
    ([("took", Json.ofUInt64 response.took),
      ("timed_out", .boolean response.timedOut),
      ("hits", response.hits.toJson)]
      ++ (response.profile.map fun profile => ("profile", profile)).toList)

/-- Read a response; each member that is left out takes its default. -/
def ofJson (value : Json) : Decoded Response := do
  let source ← Decode.Source.ofJson "SearchResponse" value
  let took := source.optional "took" 0 0 (Decode.unsigned .unsigned)
  let timedOut := source.optional "timed_out" 1 false Decode.boolean
  let hits := source.optional "hits" 2 HitList.empty HitList.ofJson
  let profile := source.optional "profile" 3 none (Decode.nullable Decode.anything)
  source.check 4
    (source.fault "took" 0 took
      ++ source.fault "timed_out" 1 timedOut
      ++ source.fault "hits" 2 hits
      ++ source.fault "profile" 3 profile)
  return {
    took := ← took
    timedOut := ← timedOut
    hits := ← hits
    profile := ← profile }

end Response

end Retrieval
