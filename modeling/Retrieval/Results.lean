import Retrieval.Notice
import Retrieval.Repository
import Retrieval.Response
import Retrieval.Settings

namespace Retrieval

/-!
# Results

The hits of a response are turned into results in their order: either into the
fields that are stored in the index, or into the records of the application.
The records are fetched at once, and a hit without a record is dropped.
-/

/-- One result of a search. -/
inductive ResultItem (Record : Type) where
  /-- A record of the application, with what is said about its score. -/
  | loaded (record : Record) (explanation : Option Json)
  /-- The fields that are stored in the index. -/
  | stored (fields : Members)
  deriving Repr, DecidableEq

namespace ResultItem

variable {Record : Type}

/-- The record of a result that was loaded. -/
def record? : ResultItem Record → Option Record
  | .loaded record _ => some record
  | .stored _ => none

/-- The fields of a result that was not loaded. -/
def fields? : ResultItem Record → Option Members
  | .loaded .. => none
  | .stored fields => some fields

/-- What is said about the score of a result. -/
def explanation? : ResultItem Record → Option Json
  | .loaded _ explanation => explanation
  | .stored _ => none

end ResultItem

/-- How results are shown. -/
structure ResultView where
  /-- Results are the stored fields of the hits. -/
  raw : Bool
  /-- The only fields that results show; none and an empty list stand for all fields. -/
  fields : Option (List String)
  deriving Repr, DecidableEq

/-- What came of turning hits into results. -/
structure MappedResults (Record : Type) where
  result : Except Error (List (ResultItem Record))
  /-- What was asked of the repository. -/
  fetches : List Fetch
  notices : List Notice

/-- The items of a list without repetitions, in the order of their first occurrences. -/
def distinct : List String → List String
  | [] => []
  | first :: rest => first :: (distinct rest).filter fun other => other != first

/-- No item is lost, and none is added. -/
@[simp] theorem mem_distinct (items : List String) (item : String) :
    item ∈ distinct items ↔ item ∈ items := by
  induction items with
  | nil =>
      simp [distinct]
  | cons first rest inductionHypothesis =>
      by_cases same : item = first
      · simp [distinct, same]
      · simp [distinct, same, inductionHypothesis]

theorem nodup_distinct (items : List String) : (distinct items).Nodup := by
  induction items with
  | nil =>
      simp [distinct]
  | cons first rest inductionHypothesis =>
      simp only [distinct, List.nodup_cons]
      constructor
      · simp
      · exact inductionHypothesis.filter _

/-- Records, each under the identifier that hits report for it. -/
abbrev Catalog (Record : Type) := List (String × Record)

namespace Catalog

variable {Record : Type}

/-- The record under an identifier, if there is one. -/
def find? (id : String) : Catalog Record → Option Record
  | [] => none
  | (name, held) :: rest => if name = id then some held else find? id rest

/-- Put a record under an identifier, in the place of another one or at the end. -/
def put (id : String) (record : Record) : Catalog Record → Catalog Record
  | [] => [(id, record)]
  | (name, held) :: rest =>
      if name = id then (id, record) :: rest else (name, held) :: put id record rest

/-- A record that is put is found, and no other identifier is touched. -/
@[simp] theorem find?_put
    (catalog : Catalog Record)
    (id other : String)
    (record : Record) :
    find? other (put id record catalog) =
      if id = other then some record else find? other catalog := by
  induction catalog with
  | nil =>
      simp [put, find?]
  | cons entry rest inductionHypothesis =>
      obtain ⟨name, held⟩ := entry
      by_cases same : name = id
      · subst same
        by_cases asked : name = other
        · simp [put, find?, asked]
        · simp [put, find?, asked]
      · by_cases asked : name = other
        · have different : id ≠ other := fun equal => same (asked.trans equal.symm)
          simp only [put, if_neg same, find?, if_pos asked, if_neg different]
        · simp [put, find?, same, asked, inductionHypothesis]

/-- Put records under their identifiers; a later one takes the place of an earlier one. -/
def putAll [Indexable Record] (records : List Record) (catalog : Catalog Record) :
    Catalog Record :=
  records.foldl (fun catalog record => put (Indexable.id record) record catalog) catalog

/-- The records under their identifiers; of two with the same one the later stays. -/
def ofRecords [Indexable Record] (records : List Record) : Catalog Record :=
  putAll records []

end Catalog

namespace ResultView

/-- The view that the settings of an engine describe. -/
def ofSettings (settings : EngineSettings) : ResultView where
  raw := settings.rawResult
  fields := settings.fields

/-- The fields that results are restricted to, if they are. -/
def restriction? (view : ResultView) : Option (List String) :=
  view.fields.filter fun fields => !fields.isEmpty

/-- The stored fields of a hit that a result shows. -/
def storedFields (view : ResultView) (hit : Hit) : Members :=
  match view.restriction? with
  | some fields => hit.source.filter fun member => fields.contains member.1
  | none => hit.source

/-- The fields that are fetched: those that results show, and the key. -/
def columns (view : ResultView) (keyName : String) : Option (List String) :=
  view.restriction?.map fun fields => distinct (fields ++ [keyName])

/-- The request for the records behind a response; each identifier is asked for once. -/
def fetch (view : ResultView) (keyName : String) (response : Response) : Fetch where
  keyName := keyName
  keys := distinct response.ids
  columns := view.columns keyName

/-- The result of a hit, if it has a record. -/
def loaded? (catalog : Catalog Record) (hit : Hit) : Option (ResultItem Record) :=
  (Catalog.find? hit.id catalog).map fun record => .loaded record hit.explanation?

/-- The notice about a hit that has no record. -/
def dropped? (catalog : Catalog Record) (hit : Hit) : Option Notice :=
  match Catalog.find? hit.id catalog with
  | some _ => none
  | none => some (.hitDropped hit.id hit.index)

/-- Turn the hits of a response into results; a total of zero stands for no hits at all. -/
def map
    [Indexable Record]
    (view : ResultView)
    (response : Response)
    (repository : Repository Record) :
    MappedResults Record :=
  let hits := response.hits.hits
  if response.total = 0 then
    { result := .ok [], fetches := [], notices := [] }
  else if view.raw then
    { result := .ok (hits.map fun hit => .stored (view.storedFields hit))
      fetches := []
      notices := [] }
  else
    let fetch := view.fetch (Indexable.keyName Record) response
    match repository.find fetch with
    | .error error => { result := .error error, fetches := [fetch], notices := [] }
    | .ok records =>
        let catalog := Catalog.ofRecords records
        { result := .ok (hits.filterMap (loaded? catalog))
          fetches := [fetch]
          notices := hits.filterMap (dropped? catalog) }

end ResultView

end Retrieval
