import Retrieval.Error
import Retrieval.Record

namespace Retrieval

/-!
# Repositories

The store of an application's records, seen from the search side: it is asked
for the records with some keys, and may answer with any records, in any order.
-/

/-- A request for the records with some keys. -/
structure Fetch where
  /-- The field that holds the key. -/
  keyName : String
  keys : List String
  /-- The only fields that are needed, or all fields. -/
  columns : Option (List String)
  deriving Repr, DecidableEq

/-- A store that is asked for records, and may fail to answer. -/
structure Repository (Record : Type) where
  find : Fetch → Except Error (List Record)

namespace Repository

/-- The records of a list whose keys are asked for, in the order of the list. -/
def ofList [Indexable Record] (held : List Record) : Repository Record where
  find fetch := .ok (held.filter fun record => fetch.keys.contains (Indexable.id record))

/-- All records of a list, whatever keys are asked for. -/
def ignoringKeys (held : List Record) : Repository Record where
  find _ := .ok held

/-- A repository that always fails. -/
def failing (error : Error) : Repository Record where
  find _ := .error error

end Repository

end Retrieval
