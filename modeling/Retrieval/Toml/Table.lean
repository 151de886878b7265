import Retrieval.Toml.Value

namespace Retrieval.Toml

/-!
# Building tables

The tables of a document grow while it is read.  A table is opened by a header,
by the way to a header below it, or by a dotted key, and that decides who may
add to it afterwards:

* a header opens a table once, also one that has only been passed on the way;
* a dotted key adds to tables that no header has opened;
* a value, an inline table or an array among them, is closed.
-/

/-- How a table came to be. -/
inductive Origin where
  /-- By a header of its own. -/
  | header
  /-- On the way to the table of a header. -/
  | passed
  /-- By a dotted key. -/
  | dotted
  deriving Repr, DecidableEq

/-- What a key of a growing table holds. -/
inductive Node where
  | value (value : Value)
  | table (origin : Origin) (entries : List (String × Node))
  /-- An array of tables: the finished ones, and the last one, which still grows. -/
  | tables (finished : List Value) (last : List (String × Node))
  deriving Repr, Inhabited

/-- The members of a growing table. -/
abbrev Entries := List (String × Node)

namespace Node

mutual

/-- The value that a node has come to. -/
def toValue : Node → Value
  | .value held => held
  | .table _ entries => .table (membersToValue entries)
  | .tables finished last => .array (finished ++ [.table (membersToValue last)])

/-- The members that the entries of a table have come to. -/
def membersToValue : List (String × Node) → List (String × Value)
  | [] => []
  | (key, node) :: rest => (key, node.toValue) :: membersToValue rest

end

end Node

namespace Entries

/-- The node of a key, if it has one. -/
def find? (key : String) (entries : Entries) : Option Node :=
  (List.find? (fun entry => entry.1 == key) entries).map Prod.snd

/-- Set the node of a key, in its place or at the end. -/
def put (key : String) (node : Node) : Entries → Entries
  | [] => [(key, node)]
  | (name, held) :: rest =>
      if name = key then (key, node) :: rest else (name, held) :: put key node rest

/-- The members of a table that is finished. -/
def finish (entries : Entries) : List (String × Value) :=
  Node.membersToValue entries

/-- Add a value under a dotted key: the tables on the way, and its last part. -/
def assign (entries : Entries) (path : List String) (key : String) (value : Value) :
    Option Entries :=
  match path with
  | [] =>
      match find? key entries with
      | some _ => none
      | none => some (entries ++ [(key, .value value)])
  | step :: rest =>
      match find? step entries with
      | none => do
          let inner ← assign [] rest key value
          some (entries ++ [(step, .table .dotted inner)])
      | some (.value _) => none
      | some (.table .header _) => none
      | some (.table .dotted inner) => do
          let inner ← assign inner rest key value
          some (put step (.table .dotted inner) entries)
      | some (.table .passed inner) =>
          if rest.isEmpty then
            none
          else do
            let inner ← assign inner rest key value
            some (put step (.table .passed inner) entries)
      | some (.tables finished last) =>
          if rest.isEmpty then
            none
          else do
            let last ← assign last rest key value
            some (put step (.tables finished last) entries)

/-- Change the table at the end of the way to a header. -/
def atPath (path : List String) (change : Entries → Option Entries) (entries : Entries) :
    Option Entries :=
  match path with
  | [] => change entries
  | step :: rest =>
      match find? step entries with
      | none => do
          let inner ← atPath rest change []
          some (entries ++ [(step, .table .passed inner)])
      | some (.value _) => none
      | some (.table origin inner) => do
          let inner ← atPath rest change inner
          some (put step (.table origin inner) entries)
      | some (.tables finished last) => do
          let last ← atPath rest change last
          some (put step (.tables finished last) entries)

end Entries

/-- A dotted key: the parts before the last one, and the last one. -/
structure Key where
  path : List String
  last : String
  deriving Repr, DecidableEq

/-- A key and the value that it is given. -/
structure Assignment where
  key : Key
  value : Value
  deriving Repr

/-- Add the values of assignments one after another, as long as each may be added. -/
def Entries.assignAll (entries : Entries) (assignments : List Assignment) : Option Entries :=
  assignments.foldlM
    (fun entries assignment =>
      entries.assign assignment.key.path assignment.key.last assignment.value)
    entries

/-- A part of a document that begins with a header. -/
structure Section where
  key : Key
  /-- The header adds a table to an array. -/
  element : Bool
  assignments : List Assignment
  deriving Repr

/-- Open the table of a section and fill it. -/
def Entries.addSection (entries : Entries) (part : Section) : Option Entries :=
  entries.atPath part.key.path fun parent =>
    match Entries.find? part.key.last parent, part.element with
    | none, false => do
        let filled ← Entries.assignAll [] part.assignments
        some (parent ++ [(part.key.last, .table .header filled)])
    | some (.table .passed held), false => do
        let filled ← Entries.assignAll held part.assignments
        some (Entries.put part.key.last (.table .header filled) parent)
    | none, true => do
        let filled ← Entries.assignAll [] part.assignments
        some (parent ++ [(part.key.last, .tables [] filled)])
    | some (.tables finished last), true => do
        let filled ← Entries.assignAll [] part.assignments
        let closed := Value.table (Entries.finish last)
        some (Entries.put part.key.last (.tables (finished ++ [closed]) filled) parent)
    | _, _ => none

/-- The table of the assignments between two braces. -/
def inlineTable (assignments : List Assignment) : Option Value := do
  let entries ← Entries.assignAll [] assignments
  some (.table (Entries.finish entries))

/-- The members of the table of a document: its first assignments, then its sections. -/
def documentTable
    (assignments : List Assignment)
    (sections : List Section) :
    Option (List (String × Value)) := do
  let start ← Entries.assignAll [] assignments
  let entries ← sections.foldlM Entries.addSection start
  some (Entries.finish entries)

end Retrieval.Toml
