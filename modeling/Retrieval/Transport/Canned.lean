import Retrieval.Transport.Dialogue

namespace Retrieval

/-!
# Canned transports

A transport without a search engine behind it.  Every search has the same
response, every index exists or none does, and operations can be made to fail
by their names.
-/

/-- What a canned transport answers. -/
structure CannedTransport where
  response : Response
  indexExists : Bool
  /-- The names of the operations that fail. -/
  failures : List String
  deriving Repr, DecidableEq

namespace CannedTransport

/-- Searches find nothing, every index exists, and no operation fails. -/
def initial : CannedTransport where
  response := Response.empty
  indexExists := true
  failures := []

/-- Make an operation fail from now on. -/
def failOn (canned : CannedTransport) (operation : String) : CannedTransport :=
  { canned with failures := operation :: canned.failures }

/-- The answer to a request whose operation does not fail. -/
def reply (canned : CannedTransport) : (request : Request) → request.Answer
  | .search .. | .searchRaw _ => canned.response
  | .indexExists _ => canned.indexExists
  | .index _ | .delete _ | .closeIndex _ | .openIndex _ | .putSettings _ | .putMapping _ => ()

/-- The transport that answers so. -/
def toTransport (canned : CannedTransport) : Transport where
  answer _ request :=
    if request.name ∈ canned.failures then
      .error (.transport (request.name ++ " failed"))
    else
      .ok (canned.reply request)

end CannedTransport

end Retrieval
