import Retrieval.Error
import Retrieval.Record

namespace Retrieval

/-!
# Envelopes

What is sent to the search engine is addressed to an index, to a document type
in it, or to one document.  The parts of the address are fixed when the
envelope is made and cannot be overwritten afterwards.

The body is set along dotted paths such as `body.settings.refresh`: objects on
the way are made when they are absent, and nothing else in the body changes.
-/

/-- What an envelope is addressed to. -/
inductive Envelope.Scope where
  | index
  | type
  | document
  deriving Repr, DecidableEq

namespace Envelope.Scope

/-- The keys that an envelope of this scope protects. -/
def protectedKeys : Scope → List String
  | .index => ["index"]
  | .type => ["index", "type"]
  | .document => ["index", "type", "id"]

end Envelope.Scope

/-- A message to the search engine: its address and its body. -/
structure Envelope where
  scope : Envelope.Scope
  index : String
  type : Option String
  id : Option Json
  body : Option Json
  deriving Repr, DecidableEq

/-- A dotted path, with the part before the first dot apart. -/
structure DottedPath where
  head : String
  rest : List String
  deriving Repr, DecidableEq

namespace DottedPath

/-- Cut characters at the dots; there is one part more than there are dots. -/
def cut : List Char → List Char × List (List Char)
  | [] => ([], [])
  | c :: input =>
      let (first, others) := cut input
      if c = '.' then ([], first :: others) else (c :: first, others)

/-- Read a path; its parts may be empty. -/
def ofText (text : String) : DottedPath where
  head := String.ofList (cut text.toList).1
  rest := (cut text.toList).2.map String.ofList

end DottedPath

namespace Envelope

/-- An envelope for an index, which must have a name. -/
def forIndex (definition : IndexDefinition) : Except Error Envelope :=
  if definition.name.isEmpty then
    .error (.configuration .unnamedIndex)
  else
    .ok {
      scope := .index
      index := definition.name
      type := none
      id := none
      body := none }

/-- An envelope for the type of a record; a missing type is reported before a missing index. -/
def forType [Indexable Record] (record : Record) : Except Error Envelope :=
  let type := Indexable.documentType record
  if type.isEmpty then
    .error (.configuration (.untypedRecord (Indexable.typeName Record)))
  else do
    let envelope ← forIndex (Indexable.index record)
    return { envelope with scope := .type, type := some type }

/-- An envelope for the document of a record. -/
def forDocument [Indexable Record] (record : Record) : Except Error Envelope := do
  let envelope ← forType record
  return { envelope with scope := .document, id := some (Indexable.key record) }

/-- Set a value at a path of keys inside another value, where `null` counts as an empty object. -/
def setNested (target : Json) : (path : List String) → (value : Json) → Except Error Json
  | [], value => .ok value
  | key :: rest, value =>
      match target with
      | .object members => do
          let child ← setNested ((Members.find? key members).getD .null) rest value
          return .object (Members.insert key child members)
      | .null => do
          let child ← setNested .null rest value
          return Json.single key child
      | other => .error (.invalidArgument (.insideValue key other))

/-- The string that a key holds. -/
def expectString (key : String) : Json → Except Error String
  | .string value => .ok value
  | found => .error (.invalidArgument (.notAString key found))

/-- Set a value at a path that has been read. -/
def setAt (envelope : Envelope) (path : DottedPath) (value : Json) : Except Error Envelope :=
  if path.head ∈ envelope.scope.protectedKeys then
    .error (.invalidArgument (.protectedKey path.head))
  else if path.head ≠ "body" ∧ path.rest ≠ [] then
    .error (.invalidArgument (.notNested path.head))
  else if path.head = "index" then do
    let name ← expectString path.head value
    return { envelope with index := name }
  else if path.head = "type" then do
    let name ← expectString path.head value
    return { envelope with type := some name }
  else if path.head = "id" then
    .ok { envelope with id := some value }
  else if path.head = "body" then do
    let body ← setNested (envelope.body.getD Json.emptyObject) path.rest value
    return { envelope with body := some body }
  else
    .error (.invalidArgument (.unknownKey path.head))

/-- Set a value at a dotted path, unless the path begins with a protected key. -/
def set (envelope : Envelope) (path : String) (value : Json) : Except Error Envelope :=
  envelope.setAt (DottedPath.ofText path) value

/-- The document that is sent; parts that are not set are left out. -/
def toJson (envelope : Envelope) : Json :=
  .object
    (("index", .string envelope.index)
      :: ((envelope.type.map fun type => ("type", Json.string type)).toList
        ++ (envelope.id.map fun id => ("id", id)).toList
        ++ (envelope.body.map fun body => ("body", body)).toList))

end Envelope

end Retrieval
