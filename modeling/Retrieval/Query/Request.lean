import Retrieval.Query.Sort

namespace Retrieval

/-!
# Search requests

A request holds a finished query with its sort order and its window.  The two
flags travel beside the document: they tell the transport what to report and
are not written.
-/

/-- A finished search. -/
structure SearchRequest where
  index : String
  type : String
  query : Json
  /-- The sort order; an empty one is not written. -/
  sort : List SortKey
  /-- The greatest number of hits. -/
  size : Option UInt64
  /-- The number of hits that are passed over. -/
  start : Option UInt64
  /-- Each hit comes with an explanation of its score. -/
  debug : Bool
  /-- The response comes with the timing of the search. -/
  profile : Bool
  deriving Repr, DecidableEq

namespace SearchRequest

/-- The member for the sort order, left out when there is none. -/
def sortMember (sort : List SortKey) : Members :=
  if sort.isEmpty then [] else [("sort", .array (sort.map SortKey.toJson))]

/-- The document of the query, its sort order and its window. -/
def body (request : SearchRequest) : Json :=
  .object
    (("query", request.query)
      :: (sortMember request.sort
        ++ (request.size.map fun size => ("size", Json.ofUInt64 size)).toList
        ++ (request.start.map fun start => ("from", Json.ofUInt64 start)).toList))

/-- The document that is sent, with the address of the search beside its body. -/
def toJson (request : SearchRequest) : Json :=
  .object [
    ("index", .string request.index),
    ("type", .string request.type),
    ("body", request.body)]

end SearchRequest

end Retrieval
