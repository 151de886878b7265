import Retrieval.Envelope
import Retrieval.Query.Request
import Retrieval.Response
import Retrieval.Settings

namespace Retrieval

/-!
# Requests to the search engine

Each request carries the document that is sent, and fixes the type of its
answer.
-/

/-- What the search engine is asked for. -/
inductive Request where
  /-- Write a document in place of the one at its address. -/
  | index (envelope : Envelope)
  /-- Remove the document at an address. -/
  | delete (envelope : Envelope)
  /-- Run a compiled search. -/
  | search (compiled : SearchRequest) (options : SearchOptions)
  /-- Run a query document as it is given. -/
  | searchRaw (envelope : Envelope)
  /-- Tell whether an index exists. -/
  | indexExists (envelope : Envelope)
  | closeIndex (envelope : Envelope)
  | openIndex (envelope : Envelope)
  /-- Change the settings of a closed index. -/
  | putSettings (envelope : Envelope)
  /-- Change the mapping of a document type. -/
  | putMapping (envelope : Envelope)
  deriving Repr, DecidableEq

namespace Request

/-- The type of the answer to a request. -/
abbrev Answer : Request → Type
  | .search .. | .searchRaw _ => Response
  | .indexExists _ => Bool
  | _ => Unit

/-- The name of the operation that a request asks for. -/
def name : Request → String
  | .index _ => "index"
  | .delete _ => "delete"
  | .search .. => "search"
  | .searchRaw _ => "search_raw"
  | .indexExists _ => "exists"
  | .closeIndex _ => "close"
  | .openIndex _ => "open"
  | .putSettings _ => "put_settings"
  | .putMapping _ => "put_mapping"

/-- The document that a request carries. -/
def document : Request → Json
  | .search compiled _ => compiled.toJson
  | .index envelope | .delete envelope | .searchRaw envelope | .indexExists envelope
  | .closeIndex envelope | .openIndex envelope | .putSettings envelope
  | .putMapping envelope => envelope.toJson

end Request

/-- A state of the transport that holds for the searches after it. -/
inductive Toggle where
  /-- Hits come with explanations of their scores. -/
  | debug
  /-- Responses come with the timing of the search. -/
  | profile
  deriving Repr, DecidableEq

/-- What a transport is told. -/
inductive Message where
  | request (request : Request)
  | toggle (toggle : Toggle) (enabled : Bool)
  deriving Repr, DecidableEq

namespace Message

/-- The request of a message that is one. -/
def request? : Message → Option Request
  | .request sent => some sent
  | .toggle .. => none

/-- The state of a toggle after messages that began with a given state. -/
def stateAfter (toggle : Toggle) (initial : Bool) (messages : List Message) : Bool :=
  messages.foldl
    (fun state message =>
      match message with
      | .toggle other enabled => if other = toggle then enabled else state
      | .request _ => state)
    initial

end Message

end Retrieval
