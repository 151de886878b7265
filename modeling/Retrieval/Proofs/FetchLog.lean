import Retrieval.Engine
import Retrieval.Proofs.FetchRequests
import Retrieval.Proofs.HitLocality
import Retrieval.Proofs.Restoration

namespace Retrieval

/-!
# What a run asks of its store

An engine maps responses over one store of records, and its view of results may
be changed between them.  The store logs what it is asked.  The log holds one
request for every response whose records are loaded, in the order of the
responses, and nothing for a response that counts no match or is shown as its
stored fields.
-/

section

variable {Record : Type} [Indexable Record]

/--
What comes of one response over a store of records: the requests that the store
is asked, and the results.
-/
inductive Answers
    (held : List Record)
    (view : ResultView)
    (response : Response) :
    List Fetch → Except Error (List (ResultItem Record)) → Prop where
  | uncounted
      (unmatched : response.total = 0) :
      Answers held view response [] (.ok [])
  | stored
      {items : List (ResultItem Record)}
      (matching : response.total ≠ 0)
      (raw : view.raw = true)
      (shown :
        List.Forall₂ (fun hit item => hit.ShowsStored view.fields item)
          response.hits.hits items) :
      Answers held view response [] (.ok items)
  | loaded
      {fetch : Fetch}
      {items : List (ResultItem Record)}
      {notices : List Notice}
      (matching : response.total ≠ 0)
      (loading : view.raw = false)
      (asks : fetch.AsksFor (Indexable.keyName Record) view.fields response)
      (walk : Walk held response.hits.hits items notices) :
      Answers held view response [fetch] (.ok items)

namespace ResultView

variable {held : List Record} {view : ResultView} {response : Response}

/-- Over a list of records each hit is looked up in the catalog of all of them. -/
theorem map_ofList_of_loading
    (held : List Record)
    (matching : response.total ≠ 0)
    (loading : view.raw = false) :
    (view.map response (.ofList held)).fetches =
        [view.fetch (Indexable.keyName Record) response] ∧
      (view.map response (.ofList held)).result =
        .ok (response.hits.hits.filterMap (loaded? (Catalog.ofRecords held))) := by
  constructor
  · rw [map_of_answered loading matching rfl]
  · have items :
        view.itemsOf response.total held =
          fun hit => (loaded? (Catalog.ofRecords held) hit).toList := by
      funext hit
      simp [itemsOf, matching, loading]
    rw [(map_of_serves (Repository.serves_ofList held) view response).1, items,
      List.filterMap_eq_flatMap_toList]

/-- A response is answered by its mapping. -/
theorem answers_map
    (held : List Record)
    (view : ResultView)
    (response : Response) :
    Answers held view response
      (view.map response (.ofList held)).fetches
      (view.map response (.ofList held)).result := by
  by_cases unmatched : response.total = 0
  · rw [map, if_pos unmatched]
    exact .uncounted unmatched
  · cases loading : view.raw with
    | true =>
        rw [map, if_neg unmatched, if_pos loading]
        exact .stored unmatched loading (forall_showsStored_iff.mpr rfl)
    | false =>
        obtain ⟨asked, loaded⟩ := map_ofList_of_loading held unmatched loading
        rw [asked, loaded]
        exact
          .loaded unmatched loading (view.fetch_asksFor _ response)
            (Walk.of_catalog held response.hits.hits)

/-- What comes of a response over a store is nothing else than its mapping. -/
theorem answers_iff
    {fetches : List Fetch}
    {result : Except Error (List (ResultItem Record))} :
    Answers held view response fetches result ↔
      fetches = (view.map response (.ofList held)).fetches ∧
        result = (view.map response (.ofList held)).result := by
  constructor
  · intro answers
    cases answers with
    | uncounted unmatched =>
        rw [map, if_pos unmatched]
        exact ⟨rfl, rfl⟩
    | stored matching raw shown =>
        rw [map, if_neg matching, if_pos raw, forall_showsStored_iff.mp shown]
        exact ⟨rfl, rfl⟩
    | loaded matching loading asks walk =>
        obtain ⟨asked, loaded⟩ := map_ofList_of_loading held matching loading
        rw [asked, loaded, asksFor_iff.mp asks, walk.eq_catalog.1]
        exact ⟨rfl, rfl⟩
  · rintro ⟨rfl, rfl⟩
    exact answers_map held view response

end ResultView

end

/-- What is done with an engine that maps responses over one store. -/
inductive MappingStep where
  | setFields (fields : List String)
  | setRawResult (raw : Bool)
  | map (response : Response)
  deriving Repr, DecidableEq

/-- An engine within a run over one store, with what the run has left behind so far. -/
structure MappingRun (Record : Type) where
  engine : Engine
  /-- What the store was asked. -/
  log : List Fetch
  /-- The results of the responses that were mapped. -/
  results : List (Except Error (List (ResultItem Record)))

namespace MappingRun

variable {Record : Type}

/-- A run that begins with given settings, and with a store that was never asked. -/
def start (settings : EngineSettings) : MappingRun Record where
  engine := Engine.ofSettings settings
  log := []
  results := []

/-- How the engine of a run shows results at this point. -/
def view (run : MappingRun Record) : ResultView :=
  .ofSettings run.engine.settings

variable [Indexable Record]

/-- The run after one more step; a map adds to the log what it fetches, and its results. -/
def step (held : List Record) (run : MappingRun Record) : MappingStep → MappingRun Record
  | .setFields fields => { run with engine := run.engine.setFields fields }
  | .setRawResult raw => { run with engine := run.engine.setRawResult raw }
  | .map response =>
      let mapped := run.engine.map response (.ofList held)
      { run with
        log := run.log ++ mapped.fetches
        results := run.results ++ [mapped.result] }

/-- Take some steps one after another. -/
def perform
    (held : List Record)
    (run : MappingRun Record)
    (steps : List MappingStep) :
    MappingRun Record :=
  steps.foldl (step held) run

end MappingRun

/--
The requests and the results of steps that begin with a given view: each response
is answered in its turn, as the view is then.
-/
inductive Logs
    {Record : Type}
    [Indexable Record]
    (held : List Record) :
    ResultView →
    List MappingStep →
    List Fetch →
    List (Except Error (List (ResultItem Record))) →
    Prop where
  | finished
      {view : ResultView} :
      Logs held view [] [] []
  | setFields
      {view : ResultView}
      {fields : List String}
      {steps : List MappingStep}
      {log : List Fetch}
      {results : List (Except Error (List (ResultItem Record)))}
      (rest : Logs held { view with fields := some fields } steps log results) :
      Logs held view (.setFields fields :: steps) log results
  | setRawResult
      {view : ResultView}
      {raw : Bool}
      {steps : List MappingStep}
      {log : List Fetch}
      {results : List (Except Error (List (ResultItem Record)))}
      (rest : Logs held { view with raw := raw } steps log results) :
      Logs held view (.setRawResult raw :: steps) log results
  | map
      {view : ResultView}
      {response : Response}
      {steps : List MappingStep}
      {fetches log : List Fetch}
      {result : Except Error (List (ResultItem Record))}
      {results : List (Except Error (List (ResultItem Record)))}
      (answers : Answers held view response fetches result)
      (rest : Logs held view steps log results) :
      Logs held view (.map response :: steps) (fetches ++ log) (result :: results)

namespace Logs

variable
  {Record : Type}
  [Indexable Record]
  {held : List Record}
  {view : ResultView}
  {steps : List MappingStep}
  {log otherLog : List Fetch}
  {results otherResults : List (Except Error (List (ResultItem Record)))}

/-- The same steps leave the same requests and the same results. -/
theorem unique
    (logs : Logs held view steps log results)
    (others : Logs held view steps otherLog otherResults) :
    log = otherLog ∧ results = otherResults := by
  induction logs generalizing otherLog otherResults with
  | finished =>
      cases others
      exact ⟨rfl, rfl⟩
  | setFields rest inductionHypothesis =>
      cases others with
      | setFields otherRest =>
          exact inductionHypothesis otherRest
  | setRawResult rest inductionHypothesis =>
      cases others with
      | setRawResult otherRest =>
          exact inductionHypothesis otherRest
  | map answers rest inductionHypothesis =>
      cases others with
      | map otherAnswers otherRest =>
          obtain ⟨sameLog, sameResults⟩ := inductionHypothesis otherRest
          obtain ⟨fetches, result⟩ := ResultView.answers_iff.mp answers
          obtain ⟨otherFetches, otherResult⟩ := ResultView.answers_iff.mp otherAnswers
          rw [fetches, otherFetches, result, otherResult, sameLog, sameResults]
          exact ⟨rfl, rfl⟩

end Logs

/-- A run adds what its steps leave to the log of its store and to its results. -/
theorem MappingRun.exists_logs
    {Record : Type}
    [Indexable Record]
    (held : List Record)
    (run : MappingRun Record)
    (steps : List MappingStep) :
    ∃ log results,
      Logs held run.view steps log results ∧
        (run.perform held steps).log = run.log ++ log ∧
        (run.perform held steps).results = run.results ++ results := by
  -- A step adds to what the run has left so far, so the induction is for every run.
  induction steps generalizing run with
  | nil =>
      exact ⟨[], [], .finished, by simp [MappingRun.perform], by simp [MappingRun.perform]⟩
  | cons next rest inductionHypothesis =>
      obtain ⟨log, results, logs, logged, resulted⟩ := inductionHypothesis (run.step held next)
      cases next with
      | setFields fields =>
          exact ⟨log, results, .setFields logs, logged, resulted⟩
      | setRawResult raw =>
          exact ⟨log, results, .setRawResult logs, logged, resulted⟩
      | map response =>
          refine ⟨_, _, .map (ResultView.answers_map held run.view response) logs, ?_, ?_⟩
          · rw [← List.append_assoc]
            exact logged
          · rw [List.append_cons]
            exact resulted

/-! A total that is zero, or is missing from what is read. -/

/-- Nothing is counted where the fields of a list of hits are read. -/
inductive HitList.CountsNothing (source : Decode.Source) : Prop where
  | missing
      (lacking : source.field? "total" 0 = none)
  | zero
      {found : Json}
      (present : source.field? "total" 0 = some found)
      (reported : TotalReported 0 found)

/-- A written response counts nothing: its hits or their total are missing, or the total is zero. -/
inductive Response.CountsNothing (value : Json) : Prop where
  | missing
      {source : Decode.Source}
      (opened : Decode.Source.ofJson "SearchResponse" value = .ok source)
      (lacking : source.field? "hits" 2 = none)
  | hits
      {source list : Decode.Source}
      {hits : Json}
      (opened : Decode.Source.ofJson "SearchResponse" value = .ok source)
      (present : source.field? "hits" 2 = some hits)
      (openedHits : Decode.Source.ofJson "Hits" hits = .ok list)
      (nothing : HitList.CountsNothing list)

open Decode

theorem HitList.CountsNothing.total_eq
    {value : Json}
    {source : Source}
    {list : HitList}
    (opened : Source.ofJson "Hits" value = .ok source)
    (nothing : HitList.CountsNothing source)
    (read : HitList.ofJson value = .ok list) :
    list.total.value = 0 := by
  simp only [HitList.ofJson, bind_eq_ok_iff] at read
  obtain ⟨_, openedToo, _, _, total, readTotal, _, _, _, _, made⟩ := read
  cases opened.symm.trans openedToo
  cases made
  cases nothing with
  | missing lacking =>
      rw [Source.optional, lacking] at readTotal
      cases readTotal
      rfl
  | zero present reported =>
      obtain ⟨same, readToo, uncounted⟩ := reported.reads
      rw [Source.optional, present] at readTotal
      cases readTotal.symm.trans readToo
      exact uncounted

/-- A response that was written without counting a match is read without one. -/
theorem Response.CountsNothing.total_eq
    {value : Json}
    {response : Response}
    (nothing : Response.CountsNothing value)
    (read : Response.ofJson value = .ok response) :
    response.total = 0 := by
  simp only [Response.ofJson, bind_eq_ok_iff] at read
  obtain ⟨_, openedToo, _, _, _, _, _, _, hits, readHits, _, _, made⟩ := read
  cases made
  cases nothing with
  | missing opened lacking =>
      cases opened.symm.trans openedToo
      rw [Source.optional, lacking] at readHits
      cases readHits
      rfl
  | hits opened present openedHits nothing =>
      cases opened.symm.trans openedToo
      rw [Source.optional, present] at readHits
      exact nothing.total_eq openedHits readHits

namespace MappingRun

/--
For every list of records, every first settings and every sequence of steps: the
store of the records is asked, and the responses are answered, as the steps tell
it one after another, and in no other way.  A response whose total is zero or
missing where it is read from counts no match.
-/
theorem store_asked_once_for_each_loading
    (Record : Type)
    [Indexable Record]
    (held : List Record)
    (settings : EngineSettings)
    (steps : List MappingStep) :
    let run := (MappingRun.start settings).perform held steps
    (∀ log results,
      Logs held (.ofSettings settings) steps log results ↔
        log = run.log ∧ results = run.results) ∧
    ∀ value response,
      Response.CountsNothing value →
      Response.ofJson value = .ok response →
      response.total = 0 := by
  intro run
  obtain ⟨log, results, logs, logged, resulted⟩ :=
    (MappingRun.start settings).exists_logs held steps
  have ran : run.log = log ∧ run.results = results :=
    ⟨logged, resulted⟩
  refine ⟨fun others otherResults => ⟨fun otherLogs => ?_, ?_⟩, ?_⟩
  · rw [ran.1, ran.2]
    exact otherLogs.unique logs
  · rintro ⟨rfl, rfl⟩
    rw [ran.1, ran.2]
    exact logs
  · intro value response nothing read
    exact nothing.total_eq read

/-- A response that lists hits without their total, within a run that asks its store twice. -/
theorem uncounted_hits_are_not_fetched :
    let first := ResultView.keyed "1" "products"
    let second := ResultView.keyed "2" "products"
    let held := [first, second]
    let source : Members := [("name", .string "phone"), ("price", .number (.natural 9))]
    let counted := Response.ofHits [.make "2" source, .make "1" [], .make "2" []]
    let written : Json :=
      .object [("hits", .object [("hits", .array [.object [("_id", .string "1")]])])]
    let uncounted : Response :=
      { Response.empty with hits := { HitList.empty with hits := [.make "1" []] } }
    let steps : List MappingStep :=
      [.map counted, .setFields ["name", "name"], .map uncounted, .map counted,
        .setRawResult true, .map counted]
    let run := (MappingRun.start EngineSettings.initial).perform held steps
    let loaded : List (ResultItem PlainRecord) :=
      [.loaded second none, .loaded first none, .loaded second none]
    Response.CountsNothing written ∧
      Response.ofJson written = .ok uncounted ∧
      uncounted.total = 0 ∧
      Logs held (.ofSettings EngineSettings.initial) steps run.log run.results ∧
      run.log =
        [{ keyName := "id", keys := ["2", "1"], columns := none },
          { keyName := "id", keys := ["2", "1"], columns := some ["name", "id"] }] ∧
      run.results =
        [.ok loaded, .ok [], .ok loaded,
          .ok [.stored [("name", .string "phone")], .stored [], .stored []]] := by
  intro first second held source counted written uncounted steps run loaded
  have nothing : Response.CountsNothing written :=
    .hits rfl rfl rfl (.missing rfl)
  have read : Response.ofJson written = .ok uncounted :=
    rfl
  obtain ⟨logged, uncountedTotal⟩ :=
    store_asked_once_for_each_loading PlainRecord held EngineSettings.initial steps
  refine ⟨nothing, read, uncountedTotal written uncounted nothing read, ?_, rfl, rfl⟩
  exact (logged run.log run.results).mpr ⟨rfl, rfl⟩

end MappingRun

end Retrieval
