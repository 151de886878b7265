import Retrieval.Index.Update
import Retrieval.Proofs.Decoding

namespace Retrieval

/-!
# Records that are written and read in part

Settings, search options and index definitions are written as objects.  Any of
their members may be removed before they are read again: a field whose member is
gone takes its default, and every other field is as it was.  Only the name of an
index must not be removed.  A document of an index that is `null` is read as an
absent one, and no update tells the two apart.
-/

open Decode

namespace Members

/-- The members whose keys are not among the removed ones. -/
def without (removed : List String) (members : Members) : Members :=
  members.filter fun member => member.1 ∉ removed

/-- A lookup finds nothing under a removed key, and under any other one what it found before. -/
theorem find?_without
    (removed : List String)
    (members : Members)
    (key : String) :
    find? key (members.without removed) =
      if key ∈ removed then none else find? key members := by
  induction members with
  | nil =>
      simp [without, find?]
  | cons member rest inductionHypothesis =>
      obtain ⟨name, value⟩ := member
      rw [without] at inductionHypothesis ⊢
      by_cases gone : name ∈ removed
      · rw [List.filter_cons_of_neg (by simpa using gone), inductionHypothesis]
        by_cases named : name = key
        · rw [← named, if_pos gone, if_pos gone]
        · rw [find?, if_neg named]
      · rw [List.filter_cons_of_pos (by simpa using gone), find?, inductionHypothesis, find?]
        by_cases named : name = key
        · rw [if_pos named, if_pos named, if_neg (named ▸ gone)]
        · rw [if_neg named, if_neg named]

/-- A field whose member is removed takes its default; every other one is read as before. -/
theorem Reads.without
    {members : Members}
    {key : String}
    {absent value : α}
    {decode : Json → Decoded α}
    (reads : members.Reads key absent decode value)
    (removed : List String) :
    (members.without removed).Reads key absent decode
      (if key ∈ removed then absent else value) := by
  have found := find?_without removed members key
  by_cases gone : key ∈ removed
  · rw [if_pos gone] at found ⊢
    exact .default found
  · rw [if_neg gone] at found ⊢
    cases reads with
    | held present decoded =>
        exact .held (found.trans present) decoded
    | default lacking =>
        exact .default (found.trans lacking)

end Members

/-- An absent document is written as `null`, and `null` is read as an absent one. -/
theorem Json.unlessNull_ofOption (held : Option Json) :
    unlessNull (some (ofOption held)) = unlessNull held := by
  cases held with
  | none =>
      rfl
  | some value =>
      rfl

/-- An object whose members with some keys are removed. -/
def Json.without (removed : List String) : Json → Json
  | .object members => .object (Members.without removed members)
  | value => value

namespace EngineSettings

/-- The settings with the defaults of the fields whose keys are given. -/
def resetting (keys : List String) (settings : EngineSettings) : EngineSettings where
  defaultField := if "default_field" ∈ keys then "_all" else settings.defaultField
  rawResult := if "raw_result" ∈ keys then false else settings.rawResult
  fields := if "fields" ∈ keys then none else settings.fields
  updateMapping := if "update_mapping" ∈ keys then false else settings.updateMapping

/-- Settings are read from the members of an object. -/
structure ReadFrom (settings : EngineSettings) (members : Members) : Prop where
  defaultField : members.Reads "default_field" "_all" string settings.defaultField
  rawResult : members.Reads "raw_result" false boolean settings.rawResult
  fields : members.Reads "fields" none (nullable (list string)) settings.fields
  updateMapping : members.Reads "update_mapping" false boolean settings.updateMapping

variable {settings : EngineSettings} {members : Members}

theorem ofJson_object_eq_ok_iff :
    ofJson (.object members) = .ok settings ↔ settings.ReadFrom members := by
  simp only [ofJson, initial, Source.ofJson, bind_eq_ok_iff, Except.ok.injEq, exists_eq_left',
    Source.check_members_eq_ok_iff, List.append_eq_nil_iff, Source.fault_eq_nil_iff,
    Source.optional_members_eq_ok_iff, pure, Except.pure]
  constructor
  · rintro
      ⟨_, _, field, readsField, raw, readsRaw, fields, readsFields, push, readsPush, rfl⟩
    exact ⟨readsField, readsRaw, readsFields, readsPush⟩
  · intro reads
    refine ⟨(), ⟨⟨⟨?_, ?_⟩, ?_⟩, ?_⟩, ?_⟩
    · exact ⟨_, reads.defaultField⟩
    · exact ⟨_, reads.rawResult⟩
    · exact ⟨_, reads.fields⟩
    · exact ⟨_, reads.updateMapping⟩
    · exact
        ⟨_, reads.defaultField, _, reads.rawResult, _, reads.fields, _, reads.updateMapping, rfl⟩

theorem ReadFrom.without
    (reads : settings.ReadFrom members)
    (removed : List String) :
    (settings.resetting removed).ReadFrom (members.without removed) :=
  ⟨reads.defaultField.without removed, reads.rawResult.without removed,
    reads.fields.without removed, reads.updateMapping.without removed⟩

theorem exists_written (settings : EngineSettings) :
    ∃ members : Members,
      settings.toJson = .object members ∧ settings.ReadFrom members := by
  refine ⟨_, rfl, ?_, ?_, ?_, ?_⟩
  · exact .held rfl rfl
  · exact .held rfl rfl
  · refine .held rfl (nullable_ofOption ?_ ?_)
    · exact fun _ => Json.noConfusion
    · intro names
      have each (name : String) : string (.string name) = .ok (id name) :=
        rfl
      have reads := items_map each names
      rwa [List.map_id] at reads
  · exact .held rfl rfl

end EngineSettings

namespace SearchOptions

/-- The options without those whose keys are given. -/
def resetting (keys : List String) (options : SearchOptions) : SearchOptions where
  limit := if "limit" ∈ keys then none else options.limit
  page := if "page" ∈ keys then none else options.page

/-- Options are read from the members of an object. -/
structure ReadFrom (options : SearchOptions) (members : Members) : Prop where
  limit : members.Reads "limit" none (nullable (unsigned .size)) options.limit
  page : members.Reads "page" none (nullable (unsigned .size)) options.page

variable {options : SearchOptions} {members : Members}

theorem ofJson_object_eq_ok_iff :
    ofJson (.object members) = .ok options ↔ options.ReadFrom members := by
  simp only [ofJson, Source.ofJson, bind_eq_ok_iff, Except.ok.injEq, exists_eq_left',
    Source.check_members_eq_ok_iff, List.append_eq_nil_iff, Source.fault_eq_nil_iff,
    Source.optional_members_eq_ok_iff, pure, Except.pure]
  constructor
  · rintro ⟨_, _, limit, readsLimit, page, readsPage, rfl⟩
    exact ⟨readsLimit, readsPage⟩
  · intro reads
    refine ⟨(), ⟨?_, ?_⟩, ?_⟩
    · exact ⟨_, reads.limit⟩
    · exact ⟨_, reads.page⟩
    · exact ⟨_, reads.limit, _, reads.page, rfl⟩

theorem ReadFrom.without
    (reads : options.ReadFrom members)
    (removed : List String) :
    (options.resetting removed).ReadFrom (members.without removed) :=
  ⟨reads.limit.without removed, reads.page.without removed⟩

theorem exists_written (options : SearchOptions) :
    ∃ members : Members,
      options.toJson = .object members ∧ options.ReadFrom members := by
  refine ⟨_, rfl, ?_, ?_⟩
  · refine Members.reads_written (?_ : _ = options.limit.map Json.ofUInt64) fun _ => rfl
    simp [Members.find?_append, Members.find?_optional]
  · refine Members.reads_written (?_ : _ = options.page.map Json.ofUInt64) fun _ => rfl
    simp [Members.find?_append, Members.find?_optional]

end SearchOptions

namespace IndexDefinition

/-- The definition without the documents whose keys are given. -/
def resetting (keys : List String) (definition : IndexDefinition) : IndexDefinition where
  name := definition.name
  settings := if "settings" ∈ keys then none else definition.settings
  defaultMapping := if "default_mapping" ∈ keys then none else definition.defaultMapping

/-- The definition whose documents are absent where they are `null`. -/
def withoutNulls (definition : IndexDefinition) : IndexDefinition where
  name := definition.name
  settings := Json.unlessNull definition.settings
  defaultMapping := Json.unlessNull definition.defaultMapping

/-- A definition is read from the members of an object. -/
structure ReadFrom (definition : IndexDefinition) (members : Members) : Prop where
  name : ∃ found, Members.find? "name" members = some found ∧ string found = .ok definition.name
  settings : members.Reads "settings" none (nullable anything) definition.settings
  defaultMapping :
    members.Reads "default_mapping" none (nullable anything) definition.defaultMapping

variable {definition : IndexDefinition} {members : Members}

theorem ofJson_object_eq_ok_iff :
    ofJson (.object members) = .ok definition ↔ definition.ReadFrom members := by
  simp only [ofJson, Source.ofJson, bind_eq_ok_iff, Except.ok.injEq, exists_eq_left',
    Source.check_members_eq_ok_iff, List.append_eq_nil_iff, Source.fault_eq_nil_iff,
    Source.optional_members_eq_ok_iff, Source.required_members_eq_ok_iff, pure, Except.pure]
  constructor
  · rintro ⟨_, _, name, readsName, settings, readsSettings, mapping, readsMapping, rfl⟩
    exact ⟨readsName, readsSettings, readsMapping⟩
  · intro reads
    refine ⟨(), ⟨⟨?_, ?_⟩, ?_⟩, ?_⟩
    · exact ⟨_, reads.name⟩
    · exact ⟨_, reads.settings⟩
    · exact ⟨_, reads.defaultMapping⟩
    · exact ⟨_, reads.name, _, reads.settings, _, reads.defaultMapping, rfl⟩

theorem ReadFrom.without
    (reads : definition.ReadFrom members)
    {removed : List String}
    (kept : "name" ∉ removed) :
    (definition.resetting removed).ReadFrom (members.without removed) := by
  refine ⟨?_, reads.settings.without removed, reads.defaultMapping.without removed⟩
  rw [Members.find?_without, if_neg kept]
  exact reads.name

theorem exists_written (definition : IndexDefinition) :
    ∃ members : Members,
      definition.toJson = .object members ∧ definition.withoutNulls.ReadFrom members := by
  refine ⟨_, rfl, ⟨_, rfl, rfl⟩, ?_, ?_⟩
  · rw [withoutNulls, ← Json.unlessNull_ofOption]
    exact Members.reads_anything rfl
  · rw [withoutNulls, ← Json.unlessNull_ofOption definition.defaultMapping]
    exact Members.reads_anything rfl

/-- Without a name no definition is read, whatever else there is. -/
theorem ofJson_of_unnamed
    (unnamed : Members.find? "name" members = none) :
    ofJson (.object members) = .error (.missingField "name") := by
  obtain ⟨settings, readsSettings⟩ := exists_reads_anything members "settings"
  obtain ⟨mapping, readsMapping⟩ := exists_reads_anything members "default_mapping"
  have name :
      (Source.members members).required "IndexConfigurator" 3 "name" 0 string =
        .error (.missingField "name") := by
    simp [Source.required, Source.field?, unnamed]
  have otherFields :
      (Source.members members).optional "settings" 1 none (nullable anything) =
          .ok settings ∧
        (Source.members members).optional "default_mapping" 2 none (nullable anything) =
          .ok mapping :=
    ⟨Source.optional_members_eq_ok_iff.mpr readsSettings,
      Source.optional_members_eq_ok_iff.mpr readsMapping⟩
  -- The name is the only field at fault.
  simp [ofJson, Source.ofJson, bind, Except.bind, name, otherFields, Source.fault, Source.check,
    leastFault]

/-- Nothing is pushed for a document that is `null`. -/
theorem pushed?_unlessNull (document : Option Json) :
    pushed? (Json.unlessNull document) = pushed? document := by
  cases document with
  | none =>
      rfl
  | some value =>
      cases value <;> rfl

/-- Definitions with one name that push the same documents are updated in the same way. -/
theorem update_congr
    {definition other : IndexDefinition}
    (name : other.name = definition.name)
    (settings : pushed? other.settings = pushed? definition.settings)
    (mapping : pushed? other.defaultMapping = pushed? definition.defaultMapping) :
    other.update = definition.update := by
  have address : Envelope.forIndex other = Envelope.forIndex definition := by
    rw [Envelope.forIndex, Envelope.forIndex, name]
  have settingsEnvelope : other.settingsEnvelope = definition.settingsEnvelope := by
    funext document
    rw [IndexDefinition.settingsEnvelope, IndexDefinition.settingsEnvelope, address]
  have mappingEnvelope : other.mappingEnvelope = definition.mappingEnvelope := by
    funext document
    rw [IndexDefinition.mappingEnvelope, IndexDefinition.mappingEnvelope, address]
  -- The documents themselves are looked at only to push them.
  have closed : other.closeAndApply = definition.closeAndApply := by
    funext envelope
    simp only [closeAndApply, applySettings, applyMapping, name, settings, mapping,
      settingsEnvelope, mappingEnvelope]
  have opened : other.openWhatever = definition.openWhatever := by
    funext envelope outcome
    cases outcome <;> simp only [openWhatever, openAfter, reopen, name]
  simp only [update, updateExisting, address, closed, opened, name]

end IndexDefinition

/--
Settings and options are read as they were written, and if any of their members
are removed, the fields of these take their defaults.  So do the documents of an
index definition, where `null` is read as an absent document; without its name it
is not read at all.  Whatever the transport answers, an update of a definition
that was read again is the update of the definition that was written.
-/
theorem written_records_read_in_part :
    (∀ settings : EngineSettings,
      EngineSettings.ofJson settings.toJson = .ok settings ∧
        ∀ removed,
          EngineSettings.ofJson (settings.toJson.without removed) =
            .ok (settings.resetting removed)) ∧
    (∀ options : SearchOptions,
      SearchOptions.ofJson options.toJson = .ok options ∧
        ∀ removed,
          SearchOptions.ofJson (options.toJson.without removed) =
            .ok (options.resetting removed)) ∧
    ∀ definition : IndexDefinition,
      (∀ removed,
        IndexDefinition.ofJson (definition.toJson.without removed) =
          if "name" ∈ removed then
            .error (.missingField "name")
          else
            .ok (definition.withoutNulls.resetting removed)) ∧
      IndexDefinition.ofJson definition.toJson = .ok definition.withoutNulls ∧
      ∀ transport history,
        Action.run transport history definition.withoutNulls.update =
          Action.run transport history definition.update := by
  refine ⟨?_, ?_, ?_⟩
  · intro settings
    obtain ⟨members, written, reads⟩ := settings.exists_written
    rw [written]
    refine ⟨EngineSettings.ofJson_object_eq_ok_iff.mpr reads, fun removed => ?_⟩
    exact EngineSettings.ofJson_object_eq_ok_iff.mpr (reads.without removed)
  · intro options
    obtain ⟨members, written, reads⟩ := options.exists_written
    rw [written]
    refine ⟨SearchOptions.ofJson_object_eq_ok_iff.mpr reads, fun removed => ?_⟩
    exact SearchOptions.ofJson_object_eq_ok_iff.mpr (reads.without removed)
  · intro definition
    obtain ⟨members, written, reads⟩ := definition.exists_written
    rw [written]
    refine ⟨fun removed => ?_, ?_, fun transport history => ?_⟩
    · split
      · next unnamed =>
        refine IndexDefinition.ofJson_of_unnamed ?_
        rw [Members.find?_without, if_pos unnamed]
      · next named =>
        exact IndexDefinition.ofJson_object_eq_ok_iff.mpr (reads.without named)
    · exact IndexDefinition.ofJson_object_eq_ok_iff.mpr reads
    · have same : definition.withoutNulls.update = definition.update :=
        IndexDefinition.update_congr rfl (IndexDefinition.pushed?_unlessNull _)
          (IndexDefinition.pushed?_unlessNull _)
      rw [same]

example :
    IndexDefinition.ofJson ((IndexDefinition.named "shop").withSettings .null).toJson =
      .ok (IndexDefinition.named "shop") :=
  rfl

end Retrieval
