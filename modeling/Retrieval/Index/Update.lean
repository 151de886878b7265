import Retrieval.Transport.Dialogue

namespace Retrieval

/-!
# Updating an index

The settings of an index can only be changed while it is closed.  An update
closes the index, applies the changes and opens it again; it is opened again
too when closing or applying fails, and then the first failure is the one that
is reported.
-/

namespace IndexDefinition

/-- The type whose mapping holds for all types of an index. -/
def defaultMappingType : String :=
  "_default_"

/-- The document that is pushed, unless it says nothing. -/
def pushed? (document : Option Json) : Option Json :=
  document.filter fun value => !value.isBlank

/-- The request that pushes the settings of an index. -/
def settingsEnvelope (definition : IndexDefinition) (settings : Json) : Except Error Envelope := do
  let envelope ← Envelope.forIndex definition
  envelope.set "body.settings" settings

/-- The request that pushes a mapping for all types of an index. -/
def mappingEnvelope (definition : IndexDefinition) (mapping : Json) : Except Error Envelope := do
  let envelope ← Envelope.forIndex definition
  let typed ← envelope.set "type" (.string defaultMappingType)
  typed.set ("body." ++ defaultMappingType) mapping

/-- Push the settings of a definition, if there are any. -/
def applySettings (definition : IndexDefinition) : Action Unit :=
  match pushed? definition.settings with
  | none => pure ()
  | some settings => do
      let envelope ← Action.ofExcept (definition.settingsEnvelope settings)
      Action.request (.putSettings envelope)

/-- Push the default mapping of a definition, if there is one. -/
def applyMapping (definition : IndexDefinition) : Action Unit :=
  match pushed? definition.defaultMapping with
  | none => pure ()
  | some mapping => do
      let envelope ← Action.ofExcept (definition.mappingEnvelope mapping)
      Action.request (.putMapping envelope)

/-- Close an index and push its settings and its default mapping. -/
def closeAndApply (definition : IndexDefinition) (envelope : Envelope) : Action Unit := do
  ExceptT.adapt (Error.indexOperation "close" definition.name)
    (Action.request (.closeIndex envelope))
  definition.applySettings
  definition.applyMapping

/-- Open an index after an update that was broken off; that the opening fails is only noticed. -/
def reopen (definition : IndexDefinition) (envelope : Envelope) (cause : Error) : Dialogue Unit := do
  Dialogue.say (.updateFailed definition.name cause)
  match ← Dialogue.send (.openIndex envelope) with
  | .ok _ => pure ()
  | .error failure => Dialogue.say (.reopenFailed definition.name failure)

/-- Open an index after an update that went through; that the opening fails is an error. -/
def openAfter (definition : IndexDefinition) (envelope : Envelope) : Action Unit :=
  ExceptT.mk do
    match ← Dialogue.send (.openIndex envelope) with
    | .ok _ =>
        Dialogue.say (.indexUpdated definition.name)
        return .ok ()
    | .error failure =>
        Dialogue.say (.openFailed definition.name failure)
        return .error (.indexOperation "open" definition.name failure)

/-- Open an index again, whatever has become of its changes. -/
def openWhatever
    (definition : IndexDefinition)
    (envelope : Envelope) :
    Except Error Unit → Dialogue (Except Error Unit)
  | .ok _ => ExceptT.run (definition.openAfter envelope)
  | .error cause => do
      definition.reopen envelope cause
      return .error cause

/-- Push the settings and the default mapping to an index that exists. -/
def updateExisting (definition : IndexDefinition) (envelope : Envelope) : Action Unit :=
  ExceptT.mk do
    let applied ← ExceptT.run (definition.closeAndApply envelope)
    definition.openWhatever envelope applied

/-- Push the settings and the default mapping of a definition to its index. -/
def update (definition : IndexDefinition) : Action Unit := do
  let envelope ← Action.ofExcept (Envelope.forIndex definition)
  let found ←
    ExceptT.adapt (Error.indexOperation "check" definition.name)
      (Action.request (.indexExists envelope))
  if found then
    definition.updateExisting envelope
  else do
    Action.say (.indexMissing definition.name)
    throw (.indexNotFound definition.name)

end IndexDefinition

namespace Indexable

/-- The mapping that a record's type declares, unless it says nothing. -/
def mapping? [Indexable Record] (record : Record) : Option Json :=
  IndexDefinition.pushed? (mapping record)

/-- The request that pushes the mapping of a record's type. -/
def mappingEnvelope
    [Indexable Record]
    (record : Record)
    (mapping : Json) :
    Except Error Envelope := do
  let envelope ← Envelope.forType record
  envelope.set ("body." ++ documentType record) mapping

/-- Push the mapping that a record's type declares, if there is one. -/
def updateMapping [Indexable Record] (record : Record) : Action Unit :=
  match mapping? record with
  | none => Action.say (.mappingAbsent (documentType record))
  | some mapping => do
      let envelope ← Action.ofExcept (mappingEnvelope record mapping)
      Action.request (.putMapping envelope)
      Action.say (.mappingUpdated (documentType record) envelope.index)

end Indexable

end Retrieval
