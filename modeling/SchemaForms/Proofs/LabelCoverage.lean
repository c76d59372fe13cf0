import SchemaForms.Proofs.FormShape
import SchemaForms.Proofs.LabelReferences
/-! Every label in a locale map is referred to. Each part of a form registers a label for each key
that it holds and for no other, and when no field replaces another all these parts stay. -/
namespace SchemaForms

/-- Choices hold the keys that the labels of their literals register. -/
theorem labels_choice (parent : LocaleKey) (literals : List Json) :
    (literals.map (choice parent)).map Choice.label =
      (literals.map (literalLabel parent)).map Label.key := by
  rw [List.map_map, List.map_map]
  rfl

namespace Column

/-- All keys that a column holds. -/
def held (column : Column) : List LocaleKey :=
  column.title :: (column.values.getD []).map Choice.label

/-- An extra column that brings its own title. Columns of properties have a type. -/
def bringsTitle (column : Column) : Bool := column.type.isNone && column.extra.contains "title"

/-- The keys that a column holds, without those of titles that extra columns bring. -/
def registered (column : Column) : List LocaleKey :=
  (if column.bringsTitle then [] else [column.title]) ++
    (column.values.getD []).map Choice.label

theorem mem_held_iff {column : Column} {key : LocaleKey} :
    key ∈ column.held ↔
      key ∈ column.registered ∨ column.bringsTitle = true ∧ key = column.title := by
  unfold held registered
  cases column.bringsTitle with
  | false => simp
  | true => simp [or_comm]

theorem bringsTitle_ofProperty? {tableKey : LocaleKey} {rules : OrderedMap ColumnRule}
    {entry : String × Property} {column : Labelled Column}
    (made : ofProperty? tableKey rules entry = some column) : column.value.bringsTitle = false := by
  obtain ⟨_, _, typed, _, _⟩ := exists_of_ofProperty? made
  rw [bringsTitle, ← Option.not_isSome, typed]
  rfl

theorem ofProperty?_registered {tableKey : LocaleKey} {rules : OrderedMap ColumnRule}
    {entry : String × Property} {column : Labelled Column}
    (made : ofProperty? tableKey rules entry = some column) :
    column.keys = column.value.registered := by
  obtain ⟨literals?, title, typed, values, labels⟩ := exists_of_ofProperty? made
  have untitled : column.value.bringsTitle = false := bringsTitle_ofProperty? made
  rw [Labelled.keys, labels, registered, untitled, title, values, List.map_cons]
  cases literals? with
  | none => rfl
  | some literals => exact congrArg (List.cons _) (labels_choice _ literals).symm

theorem bringsTitle_ofAttributes (tableKey : LocaleKey) (entry : String × OrderedMap Json) :
    (ofAttributes tableKey entry).value.bringsTitle = entry.2.contains "title" :=
  contains_title_ofAttributes tableKey entry

theorem ofAttributes_registered (tableKey : LocaleKey) (entry : String × OrderedMap Json) :
    (ofAttributes tableKey entry).keys = (ofAttributes tableKey entry).value.registered := by
  rw [registered, bringsTitle_ofAttributes]
  cases brings : entry.2.contains "title" <;>
    simp [Labelled.keys, ofAttributes, brings]

/-- Sorting moves the columns of a table, but not their labels. -/
theorem build_registered (tableKey : LocaleKey) (rule : FieldRule) (referenced : Properties) :
    (build tableKey rule referenced).keys.Perm
      ((build tableKey rule referenced).value.flatMap registered) := by
  have each : ∀ column ∈ declared tableKey rule referenced,
      column.keys = column.value.registered := by
    intro column member
    rcases mem_declared_iff.mp member with ⟨_, _, made⟩ | ⟨extra, _, rfl⟩
    · exact ofProperty?_registered made
    · exact ofAttributes_registered tableKey extra
  have declared_keys : (build tableKey rule referenced).keys =
      ((declared tableKey rule referenced).map Labelled.value).flatMap registered := by
    unfold Labelled.keys build
    rw [List.map_flatMap, List.flatMap_map]
    exact List.flatMap_congr each
  rw [declared_keys]
  exact (List.mergeSort_perm _ _).symm.flatMap_right registered

/-- The columns of a table that bring their titles are extra columns of its rule. -/
theorem exists_bringsTitle_iff {tableKey : LocaleKey} {rule : FieldRule}
    {referenced : Properties} {key : LocaleKey} :
    (∃ column ∈ (build tableKey rule referenced).value,
        column.bringsTitle = true ∧ key = column.title) ↔
      ∃ extra ∈ rule.extraColumns.entries,
        extra.2.contains "title" = true ∧ key = tableKey.child extra.1 := by
  constructor
  · rintro ⟨value, sorted, brings, rfl⟩
    obtain ⟨column, declares, rfl⟩ := List.mem_map.mp (List.mem_mergeSort.mp sorted)
    rcases mem_declared_iff.mp declares with ⟨_, _, made⟩ | ⟨extra, among, rfl⟩
    · rw [bringsTitle_ofProperty? made] at brings
      cases brings
    · rw [bringsTitle_ofAttributes] at brings
      exact ⟨extra, among, brings, rfl⟩
  · rintro ⟨extra, among, brings, rfl⟩
    have declares : ofAttributes tableKey extra ∈ declared tableKey rule referenced :=
      mem_declared_iff.mpr (.inr ⟨extra, among, rfl⟩)
    have sorted : (ofAttributes tableKey extra).value ∈ (build tableKey rule referenced).value :=
      List.mem_mergeSort.mpr (List.mem_map_of_mem declares)
    exact ⟨_, sorted, (bringsTitle_ofAttributes tableKey extra).trans brings, rfl⟩

end Column

namespace Field

/-- The keys of a field, given those of each column. -/
def keysWith (columnKeys : Column → List LocaleKey) (field : Field) : List LocaleKey :=
  field.title.toList ++ field.text.toList ++ (field.options.getD []).map Choice.label ++
    (field.columns.getD []).flatMap columnKeys

/-- A heading has nothing to label but its title. -/
theorem heading_bare (scope : FormScope) (name : String) (property : Property)
    (type : FieldType) :
    let part := heading scope name property type
    part.keys = part.value.title.toList ∧ part.value.text = none ∧ part.value.options = none ∧
      part.value.columns = none := by
  unfold heading
  cases type.isVisible <;> exact ⟨rfl, rfl, rfl, rfl⟩

theorem build_registered {scope : FormScope} {rules : RuleSet} {entry : String × Property}
    {field : Labelled Field} (built : build scope rules entry = .ok (some field)) :
    field.keys.Perm (field.value.keysWith Column.registered) := by
  obtain ⟨type, content, _, made, rfl⟩ := exists_of_build built
  obtain ⟨title_keys, no_text, no_options, no_columns⟩ :=
    heading_bare scope entry.1 entry.2 type
  have added (labels : List Label) :
      ((heading scope entry.1 entry.2 type).labels ++ labels).map Label.key =
        (heading scope entry.1 entry.2 type).value.title.toList ++ labels.map Label.key := by
    rw [List.map_append]
    exact congrArg (· ++ _) title_keys
  have content_registered : content.keys.Perm (content.value.keysWith Column.registered) := by
    rcases withContent_cases made with ⟨_, rfl⟩ | ⟨_, columns, columns_made, rfl⟩ | ⟨_, _, rfl⟩
    · rw [Labelled.keys, added]
      simp only [keysWith, no_text, no_columns, Option.toList_none, Option.getD_none,
        Option.getD_some, List.flatMap_nil, List.append_nil, labels_choice]
      exact .refl _
    · have columns_registered : columns.keys.Perm (columns.value.flatMap Column.registered) := by
        rcases columnsOf_cases columns_made with ⟨_, rfl⟩ | ⟨_, _, _, _, rfl⟩
        · exact .refl _
        · exact Column.build_registered _ _ _
      rw [Labelled.keys, added]
      simp only [keysWith, no_text, no_options, Option.toList_none, Option.getD_none,
        Option.getD_some, List.map_nil, List.append_nil]
      exact columns_registered.append_left _
    · simp [keysWith, title_keys, no_text, no_options, no_columns]
  exact content_registered

/-- The keys of a field are those that it registers and those of titles that its extra columns
bring. -/
theorem mem_keysWith_held_iff {field : Field} {key : LocaleKey} :
    key ∈ field.keysWith Column.held ↔
      key ∈ field.keysWith Column.registered ∨
        ∃ column ∈ field.columns.getD [], column.bringsTitle = true ∧ key = column.title := by
  simp only [keysWith, List.mem_append, List.mem_flatMap, Column.mem_held_iff, and_or_left,
    exists_or, or_assoc]

end Field

/-- A table of the property has an extra column whose own title takes the place of the key. -/
def FormScope.BringsTitle (scope : FormScope) (rules : RuleSet) (key : LocaleKey)
    (entry : String × Property) : Prop :=
  rules.fieldType? entry = some .table ∧ entry.2.itemsReference.isSome = true ∧
    ∃ extra ∈ ((rules.field? entry.1).getD {}).extraColumns.entries,
      extra.2.contains "title" = true ∧ key = (scope.root.child (fieldName entry.1)).child extra.1

instance (scope : FormScope) (rules : RuleSet) (key : LocaleKey) (entry : String × Property) :
    Decidable (scope.BringsTitle rules key entry) :=
  inferInstanceAs (Decidable (_ ∧ _ ∧ _))

theorem Field.bringsTitle_iff_of_build {scope : FormScope} {rules : RuleSet}
    {entry : String × Property} {field : Labelled Field}
    (built : build scope rules entry = .ok (some field)) {key : LocaleKey} :
    scope.BringsTitle rules key entry ↔
      ∃ column ∈ field.value.columns.getD [], column.bringsTitle = true ∧ key = column.title := by
  obtain ⟨type, content, typed, made, rfl⟩ := exists_of_build built
  obtain ⟨_, _, _, no_columns⟩ := heading_bare scope entry.1 entry.2 type
  have of_columnless (not_table : type ≠ .table) (columnless : content.value.columns = none) :
      scope.BringsTitle rules key entry ↔ ∃ column ∈ content.value.columns.getD [],
        column.bringsTitle = true ∧ key = column.title := by
    rw [columnless]
    refine iff_of_false ?_ (by simp)
    rintro ⟨is_table, _⟩
    exact not_table (Option.some.inj (typed.symm.trans is_table))
  rcases withContent_cases made with ⟨is_select, rfl⟩ | ⟨is_table, columns, columns_made, rfl⟩ |
    ⟨_, not_table, rfl⟩
  · rw [heading_type] at is_select
    exact of_columnless (by simp [is_select]) no_columns
  · rw [heading_type] at is_table
    unfold FormScope.BringsTitle
    rcases columnsOf_cases columns_made with ⟨no_reference, rfl⟩ |
      ⟨reference, referenced, refers, _, rfl⟩
    · simp [no_reference]
    · simp only [typed, is_table, refers, Option.isSome_some, true_and, Option.getD_some]
      exact Column.exists_bringsTitle_iff.symm
  · rw [heading_type] at not_table
    exact of_columnless not_table no_columns

/-- The keys of a form, given those of each column. -/
def Form.keysWith (columnKeys : Column → List LocaleKey) (form : Form) : List LocaleKey :=
  form.title :: form.fields.flatMap (Field.keysWith columnKeys)

theorem Form.mem_keysWith_held_iff {form : Form} {key : LocaleKey} :
    key ∈ form.keysWith Column.held ↔
      key ∈ form.keysWith Column.registered ∨
        ∃ field ∈ form.fields, ∃ column ∈ field.columns.getD [],
          column.bringsTitle = true ∧ key = column.title := by
  simp only [keysWith, List.mem_cons, List.mem_flatMap, Field.mem_keysWith_held_iff, and_or_left,
    exists_or]
  rw [or_assoc]

namespace FormScope

/-- Under distinct names no field replaces another. -/
theorem mem_byName_iff_of_distinct {fields : List (Labelled Field)}
    (distinct : (fields.map fun field => field.value.name).Nodup) {field : Field} :
    field ∈ (byName fields).values ↔ ∃ built ∈ fields, built.value = field := by
  constructor
  · exact exists_of_mem_byName
  · rintro ⟨built, member, rfl⟩
    have nodup :
        (Entries.keys (fields.map fun field => (field.value.name, field.value))).Nodup := by
      rwa [Entries.keys, List.map_map]
    have among : (built.value.name, built.value) ∈
        fields.map fun field => (field.value.name, field.value) := List.mem_map_of_mem member
    exact List.mem_map_of_mem (OrderedMap.mem_entries_ofEntries_of_nodup nodup among)

/-- When every field stays, the form has the extra columns of all rules. -/
theorem exists_bringsTitle_assemble_iff {scope : FormScope} {rules : RuleSet}
    {entries : Entries Property} {fields : List (Labelled Field)}
    (all : List.Forall₂ (fun entry field => Field.build scope rules entry = .ok (some field))
      entries fields)
    (distinct : (fields.map fun field => field.value.name).Nodup) {key : LocaleKey} :
    (∃ field ∈ (scope.assemble fields).1.fields, ∃ column ∈ field.columns.getD [],
        column.bringsTitle = true ∧ key = column.title) ↔
      ∃ entry ∈ entries, scope.BringsTitle rules key entry := by
  have of_each : (∃ entry ∈ entries, scope.BringsTitle rules key entry) ↔
      ∃ field ∈ fields, ∃ column ∈ field.value.columns.getD [],
        column.bringsTitle = true ∧ key = column.title :=
    exists_mem_iff_of_forall₂ (all.imp fun _ _ built => Field.bringsTitle_iff_of_build built)
  have submit_bare : (Field.submit (scope.root.child "save")).columns.getD [] = [] := rfl
  rw [of_each]
  constructor
  · rintro ⟨field, member, column, among, brings⟩
    rcases mem_fields_assemble member with shown | rfl
    · obtain ⟨built, from_fields, rfl⟩ := shown
      exact ⟨built, from_fields, column, among, brings⟩
    · rw [submit_bare] at among
      cases among
  · rintro ⟨built, member, brings⟩
    have named : built.value ∈ (byName fields).values :=
      (mem_byName_iff_of_distinct distinct).mpr ⟨built, member, rfl⟩
    rw [fields_assemble]
    exact ⟨built.value, List.mem_append_left _ named, brings⟩

/-- When every field stays, the keys of the fields are those of their labels. -/
theorem mem_registered_byName_iff {fields : List (Labelled Field)}
    (registered : ∀ field ∈ fields, field.keys.Perm (field.value.keysWith Column.registered))
    (distinct : (fields.map fun field => field.value.name).Nodup) {key : LocaleKey} :
    key ∈ (byName fields).values.flatMap (Field.keysWith Column.registered) ↔
      ∃ label, (∃ field ∈ fields, label ∈ field.labels) ∧ label.key = key := by
  simp only [List.mem_flatMap, mem_byName_iff_of_distinct distinct]
  constructor
  · rintro ⟨_, ⟨built, member, rfl⟩, holds⟩
    obtain ⟨label, brought, rfl⟩ :=
      List.mem_map.mp ((registered built member).mem_iff.mpr holds)
    exact ⟨label, ⟨built, member, brought⟩, rfl⟩
  · rintro ⟨label, ⟨built, member, brought⟩, rfl⟩
    exact ⟨built.value, ⟨built, member, rfl⟩,
      (registered built member).mem_iff.mp (List.mem_map_of_mem brought)⟩

theorem mem_registered_assemble_iff (scope : FormScope) {fields : List (Labelled Field)}
    (registered : ∀ field ∈ fields, field.keys.Perm (field.value.keysWith Column.registered))
    (distinct : (fields.map fun field => field.value.name).Nodup) {key : LocaleKey} :
    key ∈ (scope.assemble fields).1.keysWith Column.registered ↔
      ∃ label ∈ scope.labels fields, label.key = key := by
  have save_keys : (Field.submit (scope.root.child "save")).keysWith Column.registered =
      [scope.root.child "save"] := rfl
  rw [Form.keysWith, fields_assemble, List.flatMap_append, List.flatMap_singleton, save_keys,
    List.mem_cons, List.mem_append, mem_registered_byName_iff registered distinct,
    List.mem_singleton]
  simp only [mem_labels_iff, or_and_right, exists_or, exists_eq_left]
  exact or_congr eq_comm (or_congr_right eq_comm)

/-- When every field stays, the form registers just the keys of its locale map. -/
theorem mem_keys_assemble_iff_of_distinct (scope : FormScope) {fields : List (Labelled Field)}
    (registered : ∀ field ∈ fields, field.keys.Perm (field.value.keysWith Column.registered))
    (distinct : (fields.map fun field => field.value.name).Nodup) (path : String) :
    path ∈ (scope.assemble fields).2.keys ↔
      ∃ key ∈ (scope.assemble fields).1.keysWith Column.registered, key.path = path := by
  rw [Form.mem_keys_assemble_iff]
  simp only [mem_registered_assemble_iff scope registered distinct]
  constructor
  · rintro ⟨label, among, rfl⟩
    exact ⟨label.key, ⟨label, among, rfl⟩, rfl⟩
  · rintro ⟨_, ⟨label, among, rfl⟩, rfl⟩
    exact ⟨label, among, rfl⟩

end FormScope

/-- When the properties that have a field differ in their field names, every label of the locale map
is referred to in the form, and the map has a label for every key that the form holds, but for
those of titles that extra columns bring. -/
theorem Generator.generateForm_no_orphans {generator : Generator} {name : String}
    {operation : Operation} {generated : GeneratedForm}
    (done : generator.generateForm name operation = .ok (some generated))
    {definition : Definition} {rules : RuleSet} {properties : Properties}
    (found : generator.schema.definitions.get? name = some definition)
    (resolved : (generator.rules.definitionRules name).resolve operation = .ok rules)
    (flattened :
      generator.schema.flattenProperties name definition.properties rules = .ok properties)
    (distinct : ((rules.eligible properties).map fun entry => fieldName entry.1).Nodup) :
    (∀ path ∈ generated.locales.keys,
      ∃ key ∈ generated.form.keysWith Column.held, key.path = path) ∧
    (∀ path, path ∈ generated.locales.keys ↔
      ∃ key ∈ generated.form.keysWith Column.registered, key.path = path) ∧
    ∀ key, key ∈ generated.form.keysWith Column.held ↔
      key ∈ generated.form.keysWith Column.registered ∨
        ∃ entry ∈ rules.eligible properties,
          (generator.schema.formScope name definition operation).BringsTitle rules key entry := by
  obtain ⟨definition', rules', found', _, resolved', built⟩ := generateForm_ok_iff.mp done
  cases found.symm.trans found'
  cases resolved.symm.trans resolved'
  obtain ⟨properties', fields, flattened', made, rfl⟩ := Schema.buildForm_ok_iff.mp built
  cases flattened.symm.trans flattened'
  have all := FormScope.fields_ok_iff.mp made
  have names_distinct : (fields.map fun field => field.value.name).Nodup := by
    rwa [FormScope.names_of_built all]
  have registered : ∀ field ∈ fields,
      field.keys.Perm (field.value.keysWith Column.registered) := by
    intro field member
    obtain ⟨entry, _, field_built⟩ := FormScope.exists_entry_of_mem made member
    exact Field.build_registered field_built
  have exactly := FormScope.mem_keys_assemble_iff_of_distinct
    (generator.schema.formScope name definition operation) registered names_distinct
  refine ⟨?_, exactly, ?_⟩
  · intro path member
    obtain ⟨key, holds, rfl⟩ := (exactly path).mp member
    exact ⟨key, Form.mem_keysWith_held_iff.mpr (.inl holds), rfl⟩
  · intro key
    rw [Form.mem_keysWith_held_iff]
    exact or_congr_right (FormScope.exists_bringsTitle_assemble_iff all names_distinct)

def invoiceProperties : Properties :=
  let rows (reference : String) : Property :=
    { type := some .array, items := some { reference := some reference } }
  .ofEntries [("lines", rows "#/definitions/Line"), ("totals", rows "#/definitions/Total")]

/-- The lines of an invoice have a unit to choose, and its totals a column that brings its title. -/
def invoices : Generator :=
  let unit : Property := { literals := some [.string "piece"] }
  { schema :=
      { definitions := .ofEntries
          [("Invoice", { properties := invoiceProperties }),
           ("Line", { properties := .ofEntries [("unit", unit)] }), ("Total", {})] }
    rules :=
      { entries := .ofEntries
          [("Invoice", .object [("fields", .object
            [("totals", .object [("extra-columns", .object
              [("sum", .object [("title", .string "Sum")])])])])])] } }

def invoiceRules : RuleSet :=
  let sum : OrderedMap Json := .ofEntries [("title", .string "Sum")]
  { fields := .ofEntries [("totals", { extraColumns := .ofEntries [("sum", sum)] })] }

def invoiceForm : GeneratedForm :=
  let root : LocaleKey := ⟨"forms.invoiceCreate"⟩
  let table (name : String) (column : Column) : Field :=
    { name, type := .table, title := some (root.child name), required := some false
      columns := some [column], addRows := true }
  let unitKey : LocaleKey := (root.child "lines").child "unit"
  let unit : Column :=
    { title := unitKey, name := "unit", type := some .enum
      values := some [⟨unitKey.child "piece", .string "piece"⟩] }
  let sum : Column :=
    { title := (root.child "totals").child "sum", name := "sum"
      extra := .ofEntries [("title", .string "Sum")] }
  { definition := "Invoice"
    operation := .create
    form :=
      { title := root
        sections :=
          [⟨[table "lines" unit, table "totals" sum, Field.submit (root.child "save")]⟩] }
    locales := .ofEntries
      [("forms.invoiceCreate", "Invoice"), ("forms.invoiceCreate.lines", "lines"),
       ("forms.invoiceCreate.lines.unit", "unit"),
       ("forms.invoiceCreate.lines.unit.piece", "piece"),
       ("forms.invoiceCreate.totals", "totals"), ("forms.invoiceCreate.save", "Save")] }

theorem generateForm_invoices :
    invoices.generateForm "Invoice" .create = .ok (some invoiceForm) := by
  decide +kernel

theorem resolve_invoices :
    (invoices.rules.definitionRules "Invoice").resolve .create = .ok invoiceRules := by
  decide +kernel

theorem flatten_invoices :
    invoices.schema.flattenProperties "Invoice" invoiceProperties invoiceRules =
      .ok invoiceProperties := by
  decide +kernel

/-- The form holds a key for the title of the sums, which has no label. -/
theorem invoiceForm_no_orphans :
    ((invoiceRules.eligible invoiceProperties).map fun entry => fieldName entry.1).Nodup ∧
      (∀ path ∈ invoiceForm.locales.keys,
        ∃ key ∈ invoiceForm.form.keysWith Column.held, key.path = path) ∧
      (∀ path, path ∈ invoiceForm.locales.keys ↔
        ∃ key ∈ invoiceForm.form.keysWith Column.registered, key.path = path) ∧
      (⟨"forms.invoiceCreate.totals.sum"⟩ : LocaleKey) ∈ invoiceForm.form.keysWith Column.held ∧
      "forms.invoiceCreate.totals.sum" ∉ invoiceForm.locales.keys := by
  have found : invoices.schema.definitions.get? "Invoice" =
      some { properties := invoiceProperties } := rfl
  have distinct :
      ((invoiceRules.eligible invoiceProperties).map fun entry => fieldName entry.1).Nodup := by
    decide +kernel
  obtain ⟨referred, exactly, held_iff⟩ := Generator.generateForm_no_orphans
    generateForm_invoices found resolve_invoices flatten_invoices distinct
  refine ⟨distinct, referred, exactly, ?_, by decide⟩
  exact (held_iff _).mpr (.inr (by decide +kernel))

end SchemaForms
