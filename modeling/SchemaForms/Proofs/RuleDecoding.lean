import SchemaForms.Proofs.RuleLayers
import SchemaForms.Proofs.Traversal
/-! Rules are read entry by entry. A type that names no field type rejects the rules around it;
apart from that each field, and each column of a field, is read on its own, and those that cannot be
read are left out. -/
namespace SchemaForms

section
variable {α : Type}

/-- The map holds what each entry of the document is read as on its own, in their order, but for
those that cannot be read. -/
def ReadsEach (decode : Decoder α) (document : Json) (read : OrderedMap α) : Prop :=
  read.entries = (document.members?.getD []).filterMap fun entry =>
    (decode entry.2).toOption.map fun value => (entry.1, value)

theorem readsEach_readableEntries (decode : Decoder α) {document : Json}
    (nodup : document.keys.Nodup) :
    ReadsEach decode document (readableEntries decode document) := by
  have kept := nodup.sublist (Entries.keys_filterMapValues_sublist
    (fun entry => (decode entry).toOption) (document.members?.getD []))
  exact @Entries.insertAll_eq_append _ [] _ kept

theorem ReadsEach.get? {decode : Decoder α} {document : Json} {read : OrderedMap α}
    (reads : ReadsEach decode document read) (nodup : document.keys.Nodup) (name : String) :
    read.get? name = (document.get? name).bind fun entry => (decode entry).toOption := by
  have seen := Entries.get?_filterMapValues nodup (fun entry => (decode entry).toOption) name
  rw [OrderedMap.get?, reads]
  refine seen.trans ?_
  cases document <;> rfl

/-- What an entry is read as does not depend on the others. -/
theorem ReadsEach.get?_eq {decode : Decoder α} {document document' : Json}
    {read read' : OrderedMap α} (reads : ReadsEach decode document read)
    (reads' : ReadsEach decode document' read') (nodup : document.keys.Nodup)
    (nodup' : document'.keys.Nodup) {name : String}
    (same : document.get? name = document'.get? name) : read.get? name = read'.get? name := by
  rw [reads.get? nodup, reads'.get? nodup', same]

end

namespace Json
variable {α : Type}

theorem asName_ok_iff {decode : String → Except DecodeError α} {document : Json} {value : α} :
    asName decode document = .ok value ↔
      ∃ name, decode name = .ok value ∧
        (document = .string name ∨ document = .object [(name, .null)]) := by
  cases document with
  | string name => simp [asName]
  | object members =>
    match members with
    | [] => simp [asName]
    | [(name, payload)] =>
      by_cases unit : payload = .null
      · simp [asName, unit]
      · have refused : asName decode (.object [(name, payload)]) ≠ .ok value := by
          intro read
          obtain ⟨named, _, done⟩ := exists_of_bind_ok read
          rw [if_neg unit] at done
          cases done
        simp [refused, unit]
    | _ :: _ :: _ => simp [asName]
  | _ => simp [asName]

/-- The attributes of a record, which gives them by name or by position. -/
def attributes (names : List String) : Json → Entries Json
  | .object members => members
  | .array items => names.zip items
  | _ => []

theorem keys_zip (names : List String) (items : List Json) :
    Entries.keys (names.zip items) = names.take items.length := by
  induction names generalizing items with
  | nil => simp
  | cons name rest ih =>
    cases items with
    | nil => rfl
    | cons item items => rw [List.zip_cons_cons, Entries.keys_cons, ih]; rfl

theorem nodup_keys_attributes {names : List String} (nodup : names.Nodup) {record : Json}
    (wellFormed : record.WellFormed) : (Entries.keys (record.attributes names)).Nodup := by
  cases record with
  | object members => exact wellFormed.nodup_keys
  | array items =>
    rw [attributes, keys_zip]
    exact nodup.sublist (List.take_sublist _ _)
  | _ => exact List.nodup_nil

theorem WellFormed.of_attributes {record value : Json} (wellFormed : record.WellFormed)
    {names : List String} {name : String}
    (found : Entries.get? (record.attributes names) name = some value) : value.WellFormed := by
  cases record with
  | object members => exact wellFormed.of_get? found
  | array items =>
    rw [WellFormed] at wellFormed
    exact wellFormedItems_iff.mp wellFormed value (List.of_mem_zip (Entries.mem_of_get? found)).2
  | _ => cases found

theorem foldlM_of_asRecord {name : String} {names : List String} {empty record : α}
    {step : α → String × Json → Except DecodeError α} {document : Json}
    (read : asRecord name names empty step document = .ok record) :
    (document.attributes names).foldlM step empty = .ok record := by
  cases document with
  | object members => exact read
  | array items =>
    obtain ⟨record', run, done⟩ := exists_of_bind_ok read
    rw [attributes, run]
    split at done
    · cases done
    · exact done
  | _ => cases read

theorem toOption_asRecord_array (name : String) (names : List String) (empty : α)
    (step : α → String × Json → Except DecodeError α) (items : List Json) :
    (asRecord name names empty step (.array items)).toOption =
      if names.length < items.length then none
      else ((names.zip items).foldlM step empty).toOption := by
  rw [asRecord]
  cases (names.zip items).foldlM step empty with
  | error failure => split <;> rfl
  | ok record => split <;> rfl

end Json

namespace FieldType

theorem ofName_ok_iff {name : String} {type : FieldType} :
    ofName name = .ok type ↔ name = type.name := by
  constructor
  · intro read
    unfold ofName at read
    split at read
    · next found named =>
      cases read
      simpa [eq_comm] using List.find?_some named
    · cases read
  · rintro rfl
    cases type <;> decide

/-- A field type is named by a text alone, or by the only key of an object with null under it. -/
theorem ofJson_ok_iff {value : Json} {type : FieldType} :
    ofJson value = .ok type ↔ value = .string type.name ∨ value = .object [(type.name, .null)] := by
  simp [ofJson, Json.asName_ok_iff, ofName_ok_iff]

end FieldType

namespace FieldRule

/-- What a rule holds for its columns; null when it holds nothing. -/
def columnsDocument (document : Json) : Json :=
  (Entries.get? (document.attributes attributeNames) "columns").getD .null

theorem columns_of_set {rule next : FieldRule} {member : String × Json}
    (done : set rule member = .ok next) :
    next.columns =
      if member.1 = "columns" then readableEntries ColumnRule.ofJson member.2
      else rule.columns := by
  unfold set at done
  split at done
  case h_6 => cases done; rfl
  case h_8 _ _ other _ =>
    cases done
    rw [if_neg fun named => other member.2 (Prod.ext named rfl)]
  all_goals
    obtain ⟨value, _, done⟩ := exists_of_bind_ok done
    cases done
    rfl

theorem columns_of_foldlM {members : Entries Json} (nodup : (Entries.keys members).Nodup)
    {rule final : FieldRule} (run : members.foldlM set rule = .ok final) :
    final.columns = ((Entries.get? members "columns").map
      (readableEntries ColumnRule.ofJson)).getD rule.columns := by
  induction members generalizing rule with
  | nil => cases run; rfl
  | cons member rest ih =>
    obtain ⟨name, value⟩ := member
    rw [Entries.keys_cons, List.nodup_cons] at nodup
    rw [List.foldlM_cons] at run
    obtain ⟨next, step, run⟩ := exists_of_bind_ok run
    rw [ih nodup.2 run, columns_of_set step, Entries.get?_cons]
    by_cases named : name = "columns"
    · rw [if_pos named, if_pos named, Entries.get?_eq_none_iff.mpr (named ▸ nodup.1)]
      rfl
    · rw [if_neg named, if_neg named]

theorem columns_of_ofJson {entry : Json} {rule : FieldRule} (wellFormed : entry.WellFormed)
    (read : ofJson entry = .ok rule) :
    rule.columns = readableEntries ColumnRule.ofJson (columnsDocument entry) := by
  have nodup : (Entries.keys (entry.attributes attributeNames)).Nodup :=
    Json.nodup_keys_attributes (by decide) wellFormed
  rw [columns_of_foldlM nodup (Json.foldlM_of_asRecord read), columnsDocument]
  cases Entries.get? (entry.attributes attributeNames) "columns" <;> rfl

theorem nodup_keys_columnsDocument {entry : Json} (wellFormed : entry.WellFormed) :
    (columnsDocument entry).keys.Nodup := by
  unfold columnsDocument
  cases found : Entries.get? (entry.attributes attributeNames) "columns" with
  | none => exact List.nodup_nil
  | some value => exact (wellFormed.of_attributes found).nodup_keys

/-- The rule without its columns. -/
def bare (rule : FieldRule) : FieldRule := { rule with columns := {} }

theorem set_withColumns {name : String} (other : name ≠ "columns") (value : Json)
    (rule : FieldRule) (columns : OrderedMap ColumnRule) :
    set { rule with columns } (name, value) =
      (set rule (name, value)).map fun next => { next with columns } := by
  unfold set
  split
  case h_6 named => exact absurd (congrArg Prod.fst named) other
  case h_8 => rfl
  all_goals
    rename_i named
    cases named
    rw [map_bind_pure]

/-- The columns decide neither whether a rule can be read nor what else it holds. -/
theorem map_bare_foldlM_erase (members : Entries Json) (rule : FieldRule)
    (columns : OrderedMap ColumnRule) :
    (members.foldlM set { rule with columns }).map bare =
      ((Entries.erase members "columns").foldlM set rule).map bare := by
  induction members generalizing rule columns with
  | nil => rfl
  | cons member rest ih =>
    obtain ⟨name, value⟩ := member
    rw [Entries.erase_cons]
    by_cases named : name = "columns"
    · subst named
      rw [if_pos rfl]
      exact ih rule (readableEntries ColumnRule.ofJson value)
    · rw [if_neg named, List.foldlM_cons, List.foldlM_cons, set_withColumns named]
      cases set rule (name, value) with
      | error failure => rfl
      | ok next => exact ih next columns

/-- The entries give the same attributes in the same way, but for the columns. -/
inductive SameButColumns : Json → Json → Prop
  | named {members members' : Entries Json}
      (same : Entries.erase members "columns" = Entries.erase members' "columns") :
      SameButColumns (.object members) (.object members')
  | listed {items items' : List Json}
      (same : Entries.erase (attributeNames.zip items) "columns" =
        Entries.erase (attributeNames.zip items') "columns")
      (fit : attributeNames.length < items.length ↔ attributeNames.length < items'.length) :
      SameButColumns (.array items) (.array items')

theorem bare_foldlM_erase (members : Entries Json) :
    (members.foldlM set {}).toOption.map bare =
      ((Entries.erase members "columns").foldlM set {}).toOption.map bare := by
  have same := map_bare_foldlM_erase members {} {}
  have seen := congrArg Except.toOption same
  rwa [toOption_map, toOption_map] at seen

theorem bare_ofJson_eq {entry entry' : Json} (same : SameButColumns entry entry') :
    (ofJson entry).toOption.map bare = (ofJson entry').toOption.map bare := by
  cases same with
  | @named members members' same =>
    exact (bare_foldlM_erase members).trans (same ▸ (bare_foldlM_erase members').symm)
  | @listed items items' same fit =>
    rw [ofJson, Json.toOption_asRecord_array, Json.toOption_asRecord_array]
    by_cases long : attributeNames.length < items.length
    · rw [if_pos long, if_pos (fit.mp long)]
    · rw [if_neg long, if_neg fun long' => long (fit.mpr long'), bare_foldlM_erase, same,
        ← bare_foldlM_erase]

end FieldRule

namespace RuleSet

/-- What merged rules hold for the fields; null when they hold nothing. -/
def fieldsDocument (merged : Json) : Json := (merged.get? "fields").getD .null

/-- The entry is a mapping with a type that cannot be read. -/
def HasBadType (entry : String × Json) (fault : String × DecodeError) : Prop :=
  entry.1 = fault.1 ∧
    ∃ value, entry.2.get? "type" = some value ∧ FieldType.ofJson value = .error fault.2

theorem typeFault?_eq_some_iff {entry : String × Json} {fault : String × DecodeError} :
    typeFault? entry = some fault ↔ HasBadType entry fault := by
  obtain ⟨field, cause⟩ := fault
  unfold typeFault? HasBadType
  cases entry.2.get? "type" with
  | none => simp
  | some value => cases read : FieldType.ofJson value <;> simp [read]

theorem findSome?_typeFault?_iff {entries : Entries Json} {fault : String × DecodeError} :
    entries.findSome? typeFault? = some fault ↔ FirstFailure HasBadType entries fault := by
  rw [List.findSome?_eq_some_iff]
  simp only [FirstFailure, Option.eq_none_iff_forall_ne_some, ne_eq, typeFault?_eq_some_iff]

theorem ofMerged_eq (merged : Json) :
    ofMerged merged =
      match ((fieldsDocument merged).members?.getD []).findSome? typeFault? with
      | some fault => .error fault
      | none => .ok { fields := readableEntries FieldRule.ofJson (fieldsDocument merged) } := by
  unfold ofMerged fieldsDocument
  cases merged.get? "fields" <;> rfl

theorem ofMerged_error_iff {merged : Json} {fault : String × DecodeError} :
    ofMerged merged = .error fault ↔
      FirstFailure HasBadType ((fieldsDocument merged).members?.getD []) fault := by
  rw [ofMerged_eq, ← findSome?_typeFault?_iff]
  cases ((fieldsDocument merged).members?.getD []).findSome? typeFault? <;> simp

theorem fields_of_ofMerged {merged : Json} {read : RuleSet} (done : ofMerged merged = .ok read) :
    read.fields = readableEntries FieldRule.ofJson (fieldsDocument merged) := by
  rw [ofMerged_eq] at done
  split at done
  · cases done
  · cases done; rfl

/-- A type that the entry holds is a field type. -/
def TypeIsKnown (entry : String × Json) : Prop :=
  ∀ value, entry.2.get? "type" = some value →
    ∃ type : FieldType, value = .string type.name ∨ value = .object [(type.name, .null)]

theorem hasBadType_iff {entry : String × Json} :
    (∃ fault, HasBadType entry fault) ↔ ¬ TypeIsKnown entry := by
  constructor
  · rintro ⟨⟨field, cause⟩, _, value, found, refused⟩ known
    obtain ⟨type, named⟩ := known value found
    have read := FieldType.ofJson_ok_iff.mpr named
    rw [refused] at read
    cases read
  · intro unknown
    by_contra fine
    apply unknown
    intro value found
    cases read : FieldType.ofJson value with
    | error cause => exact absurd ⟨(entry.1, cause), rfl, value, found, read⟩ fine
    | ok type => exact ⟨type, FieldType.ofJson_ok_iff.mp read⟩

/-- The set holds the rules of the entries that can be read on their own, and so does each rule for
its columns. -/
structure ReadsByEntry (document : Json) (read : RuleSet) : Prop where
  fields : ReadsEach FieldRule.ofJson document read.fields
  columns : ∀ name entry rule, document.get? name = some entry →
    FieldRule.ofJson entry = .ok rule →
      ReadsEach ColumnRule.ofJson (FieldRule.columnsDocument entry) rule.columns

/-- An entry that two documents share gives the same rule in both. Entries that differ in their
columns give the same rule but for these, and a column that they share is the same in both. -/
structure ReadsAlike (document document' : Json) (read read' : RuleSet) : Prop where
  fields : ∀ name, document.get? name = document'.get? name → read.field? name = read'.field? name
  others : ∀ name entry entry', document.get? name = some entry →
    document'.get? name = some entry' → FieldRule.SameButColumns entry entry' →
      (read.field? name).map FieldRule.bare = (read'.field? name).map FieldRule.bare
  columns : ∀ name entry entry' rule rule', document.get? name = some entry →
    document'.get? name = some entry' → read.field? name = some rule →
      read'.field? name = some rule' → ∀ column,
        (FieldRule.columnsDocument entry).get? column =
          (FieldRule.columnsDocument entry').get? column →
        rule.columns.get? column = rule'.columns.get? column

section
variable {document document' : Json} {read read' : RuleSet}

theorem ReadsByEntry.field? (reads : ReadsByEntry document read) (wellFormed : document.WellFormed)
    (name : String) :
    read.field? name = (document.get? name).bind fun entry => (FieldRule.ofJson entry).toOption :=
  reads.fields.get? wellFormed.nodup_keys name

theorem ReadsByEntry.columns_of_field? (reads : ReadsByEntry document read)
    (wellFormed : document.WellFormed) {name : String} {entry : Json} {rule : FieldRule}
    (found : document.get? name = some entry) (seen : read.field? name = some rule) :
    ReadsEach ColumnRule.ofJson (FieldRule.columnsDocument entry) rule.columns := by
  rw [reads.field? wellFormed, found, Option.bind_some] at seen
  apply reads.columns name entry rule found
  cases decoded : FieldRule.ofJson entry with
  | error failure => rw [decoded] at seen; cases seen
  | ok value => rw [decoded] at seen; cases seen; rfl

theorem ReadsByEntry.alike (reads : ReadsByEntry document read)
    (reads' : ReadsByEntry document' read') (wellFormed : document.WellFormed)
    (wellFormed' : document'.WellFormed) : ReadsAlike document document' read read' := by
  refine ⟨?_, ?_, ?_⟩
  · intro name same
    exact reads.fields.get?_eq reads'.fields wellFormed.nodup_keys wellFormed'.nodup_keys same
  · intro name entry entry' found found' same
    rw [reads.field? wellFormed, reads'.field? wellFormed', found, found']
    exact FieldRule.bare_ofJson_eq same
  · intro name entry entry' rule rule' found found' seen seen' column same
    exact (reads.columns_of_field? wellFormed found seen).get?_eq
      (reads'.columns_of_field? wellFormed' found' seen')
      (FieldRule.nodup_keys_columnsDocument (wellFormed.of_get? found))
      (FieldRule.nodup_keys_columnsDocument (wellFormed'.of_get? found')) same

end

theorem readsByEntry_of_ofMerged {merged : Json} {read : RuleSet}
    (wellFormed : (fieldsDocument merged).WellFormed) (done : ofMerged merged = .ok read) :
    ReadsByEntry (fieldsDocument merged) read := by
  constructor
  · rw [fields_of_ofMerged done]
    exact readsEach_readableEntries _ wellFormed.nodup_keys
  · intro name entry rule found entry_read
    have entry_wellFormed := wellFormed.of_get? found
    rw [FieldRule.columns_of_ofJson entry_wellFormed entry_read]
    exact readsEach_readableEntries _ (FieldRule.nodup_keys_columnsDocument entry_wellFormed)

end RuleSet

namespace DefinitionRules

/-- What the rules of an operation hold for the fields, before it is read. -/
def fields (rules : DefinitionRules) (operation : Operation) : Json :=
  RuleSet.fieldsDocument (rules.merged operation)

theorem wellFormed_fields {rules : DefinitionRules} (wellFormed : rules.document.WellFormed)
    (operation : Operation) : (rules.fields operation).WellFormed := by
  have layer : Json.LayerWellFormed (some rules.document) := by
    intro value found
    cases found
    exact wellFormed
  have merged : (rules.merged operation).WellFormed := by
    apply Json.wellFormed_mergeLayers
    simp only [List.forall_mem_cons, List.not_mem_nil, false_imp_iff, implies_true, and_true]
    exact ⟨layer.own, layer.member wildcard, layer.member operation.name⟩
  unfold fields RuleSet.fieldsDocument
  cases found : (rules.merged operation).get? "fields" with
  | none => trivial
  | some value => exact merged.of_get? found

theorem resolve_error_iff {rules : DefinitionRules} {operation : Operation} {failure : FormError} :
    rules.resolve operation = .error failure ↔
      ∃ field cause, failure = .invalidRules rules.definition operation field cause ∧
        FirstFailure RuleSet.HasBadType ((rules.fields operation).members?.getD [])
          (field, cause) := by
  simp only [fields, ← RuleSet.ofMerged_error_iff]
  unfold resolve
  cases RuleSet.ofMerged (rules.merged operation) with
  | error fault =>
    obtain ⟨field, cause⟩ := fault
    constructor
    · rintro ⟨⟩
      exact ⟨field, cause, rfl, rfl⟩
    · rintro ⟨_, _, rfl, ⟨⟩⟩
      rfl
  | ok read => exact iff_of_false nofun (by rintro ⟨_, _, _, ⟨⟩⟩)

theorem resolve_ok_iff {rules : DefinitionRules} {operation : Operation} {read : RuleSet} :
    rules.resolve operation = .ok read ↔ RuleSet.ofMerged (rules.merged operation) = .ok read := by
  unfold resolve
  cases RuleSet.ofMerged (rules.merged operation) <;> simp [Except.mapError]

theorem readsByEntry_of_resolve {rules : DefinitionRules} (wellFormed : rules.document.WellFormed)
    {operation : Operation} {read : RuleSet} (done : rules.resolve operation = .ok read) :
    RuleSet.ReadsByEntry (rules.fields operation) read :=
  RuleSet.readsByEntry_of_ofMerged (wellFormed_fields wellFormed operation)
    (resolve_ok_iff.mp done)

/-- Only a type that is no field type rejects rules, and the first one is reported. Otherwise each
field and each column of a field is read on its own or left out, whatever stands beside it. -/
theorem resolve_by_entries {rules : DefinitionRules} (wellFormed : rules.document.WellFormed)
    (operation : Operation) :
    (∀ failure, rules.resolve operation = .error failure ↔
      ∃ field cause, failure = .invalidRules rules.definition operation field cause ∧
        FirstFailure RuleSet.HasBadType ((rules.fields operation).members?.getD [])
          (field, cause)) ∧
    ((∃ failure, rules.resolve operation = .error failure) ↔
      ∃ entry ∈ (rules.fields operation).members?.getD [], ¬ RuleSet.TypeIsKnown entry) ∧
    ((∀ entry ∈ (rules.fields operation).members?.getD [], RuleSet.TypeIsKnown entry) →
      ∃ read, rules.resolve operation = .ok read ∧
        RuleSet.ReadsByEntry (rules.fields operation) read) ∧
    ∀ (rules' : DefinitionRules) (operation' : Operation) (read read' : RuleSet),
      rules'.document.WellFormed → rules.resolve operation = .ok read →
        rules'.resolve operation' = .ok read' →
          RuleSet.ReadsAlike (rules.fields operation) (rules'.fields operation') read read' := by
  have rejects : (∃ failure, rules.resolve operation = .error failure) ↔
      ∃ entry ∈ (rules.fields operation).members?.getD [], ¬ RuleSet.TypeIsKnown entry := by
    simp only [resolve_error_iff, ← RuleSet.hasBadType_iff]
    constructor
    · rintro ⟨failure, field, cause, _, first⟩
      obtain ⟨entry, member, bad⟩ := exists_mem_of_firstFailure first
      exact ⟨entry, member, _, bad⟩
    · rintro ⟨entry, member, fault, bad⟩
      obtain ⟨⟨field, cause⟩, first⟩ := exists_firstFailure member bad
      exact ⟨_, field, cause, rfl, first⟩
  refine ⟨fun failure => resolve_error_iff, rejects, ?_, ?_⟩
  · intro known
    cases outcome : rules.resolve operation with
    | error failure =>
      obtain ⟨entry, member, unknown⟩ := rejects.mp ⟨failure, outcome⟩
      exact absurd (known entry member) unknown
    | ok read => exact ⟨read, rfl, readsByEntry_of_resolve wellFormed outcome⟩
  · intro rules' operation' read read' wellFormed' done done'
    exact (readsByEntry_of_resolve wellFormed done).alike
      (readsByEntry_of_resolve wellFormed' done') (wellFormed_fields wellFormed operation)
      (wellFormed_fields wellFormed' operation')

/-- Field rules of which two cannot be read, and a rule given by position. The rule for the rows has
two columns that cannot be read. -/
def malformedRules : DefinitionRules where
  definition := "Order"
  document := .object
    [("create", .object
      [("fields", .object
        [("email", .object [("skip", .string "yes")]),
         ("name", .object [("type", .string "memo")]),
         ("note", .string "hidden"),
         ("rows", .object
           [("columns", .object
              [("amount", .object [("order", .number (.int 2))]),
               ("code", .object [("skip", .number (.int 1))]),
               ("unit", .object [("type", .string "slider")])]),
            ("skip", .bool false)]),
         ("tags", .array [.bool true])])])]

/-- Field rules with a null type before a type of another name. -/
def rejectedRules : DefinitionRules where
  definition := "Order"
  document := .object
    [("*", .object
      [("fields", .object
        [("email", .object [("skip", .string "yes")]),
         ("total", .object [("type", .null)]),
         ("unit", .object [("type", .string "slider")])])])]

theorem resolve_malformedRules :
    (malformedRules.document.WellFormed ∧ ∃ read, malformedRules.resolve .create = .ok read ∧
      read.fields.keys = ["name", "rows", "tags"] ∧
      (read.field? "rows").map (·.columns.keys) = some ["amount"]) ∧
    rejectedRules.document.WellFormed ∧
      rejectedRules.resolve .update = .error
        (.invalidRules "Order" .update "total" (.invalidType .null "string or map")) := by
  have wellFormed : malformedRules.document.WellFormed := by
    simp [malformedRules, Json.WellFormed, Json.WellFormedMembers, Json.WellFormedItems]
  have rejected_wellFormed : rejectedRules.document.WellFormed := by
    simp [rejectedRules, Json.WellFormed, Json.WellFormedMembers]
  have known : ∀ entry ∈ (malformedRules.fields .create).members?.getD [],
      RuleSet.TypeIsKnown entry := by
    have passes : ((malformedRules.fields .create).members?.getD []).findSome?
        RuleSet.typeFault? = none := by decide +kernel
    intro entry member
    by_contra unknown
    obtain ⟨fault, bad⟩ := RuleSet.hasBadType_iff.mpr unknown
    have none := List.findSome?_eq_none_iff.mp passes entry member
    rw [RuleSet.typeFault?_eq_some_iff.mpr bad] at none
    cases none
  obtain ⟨read, done, reads⟩ := (resolve_by_entries wellFormed .create).2.2.1 known
  refine ⟨⟨wellFormed, read, done, ?_, ?_⟩, rejected_wellFormed, ?_⟩
  · rw [OrderedMap.keys, reads.fields]
    decide +kernel
  · rw [RuleSet.field?, OrderedMap.get?, reads.fields]
    decide +kernel
  · refine ((resolve_by_entries rejected_wellFormed .update).1 _).mpr ⟨_, _, rfl, ?_⟩
    rw [← RuleSet.findSome?_typeFault?_iff]
    decide +kernel

end DefinitionRules
end SchemaForms
