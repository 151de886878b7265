import Retrieval.Index.Definition

namespace Retrieval

/-!
# Records

The records of an application live in a store of their own.  The index holds a
document for each of them, made of the fields that can be searched.
-/

/-- A type of records that can be indexed and found again. -/
class Indexable (Record : Type) where
  /-- The name of the type in messages. -/
  typeName : String
  /-- The name of the field of the store that holds the key. -/
  keyName : String := "id"
  /-- The key of a record. -/
  key : Record → Json
  /-- The document type under which a record is indexed. -/
  documentType : Record → String
  /-- The index that holds the documents of a record's type. -/
  index : Record → IndexDefinition
  /-- The fields that are written to the index; a record without any is not indexed. -/
  fields : Record → Members
  /-- The mapping of the document type. -/
  mapping : Record → Option Json := fun _ => none

/-- The identifier under which the index reports a record. -/
def Indexable.id [Indexable Record] (record : Record) : String :=
  (Indexable.key record).keyText

/-- A record that carries all that its type declares. -/
structure PlainRecord where
  key : Json
  documentType : String
  index : IndexDefinition
  fields : Members
  mapping : Option Json
  deriving Repr, DecidableEq

instance : Indexable PlainRecord where
  typeName := "PlainRecord"
  key := PlainRecord.key
  documentType := PlainRecord.documentType
  index := PlainRecord.index
  fields := PlainRecord.fields
  mapping := PlainRecord.mapping

end Retrieval
