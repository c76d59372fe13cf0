import SchemaForms.Form.Generator
import SchemaForms.Proofs.Flatten
/-! What a form that is generated was generated from: the definition, its rules and properties, and
one built field for each property that calls for one. Later modules read forms off these parts. -/
namespace SchemaForms

namespace RuleSet

/-- A property that is not named has the empty rule. -/
def fieldRule (rules : RuleSet) (property : String) : FieldRule :=
  (rules.field? property).getD {}

/-- The rule of a property does not skip it, and there is a type for its field: the one that the
rule gives or else the one that its attributes call for. -/
def HasField (rules : RuleSet) (entry : String × Property) : Prop :=
  (rules.fieldRule entry.1).skip = false ∧
    ((rules.fieldRule entry.1).type <|> entry.2.fieldType?).isSome = true

instance (rules : RuleSet) (entry : String × Property) : Decidable (rules.HasField entry) :=
  inferInstanceAs (Decidable (_ ∧ _))

/-- The properties that have a field. -/
def eligible (rules : RuleSet) (properties : Properties) : Entries Property :=
  properties.entries.filter fun entry => rules.HasField entry

/-- The type of the field of a property that has one. -/
def fieldType? (rules : RuleSet) (entry : String × Property) : Option FieldType :=
  if rules.HasField entry then (rules.fieldRule entry.1).type <|> entry.2.fieldType? else none

theorem fieldType?_eq_some_iff {rules : RuleSet} {entry : String × Property} {type : FieldType} :
    rules.fieldType? entry = some type ↔
      (rules.fieldRule entry.1).skip = false ∧
        ((rules.fieldRule entry.1).type <|> entry.2.fieldType?) = some type := by
  unfold fieldType?
  by_cases has_field : rules.HasField entry
  · rw [if_pos has_field]
    exact ⟨fun typed => ⟨has_field.1, typed⟩, And.right⟩
  · rw [if_neg has_field]
    refine iff_of_false nofun fun ⟨shown, typed⟩ => has_field ⟨shown, ?_⟩
    rw [typed, Option.isSome_some]

theorem hasField_iff {rules : RuleSet} {entry : String × Property} :
    rules.HasField entry ↔ (rules.fieldType? entry).isSome = true := by
  unfold fieldType?
  by_cases has_field : rules.HasField entry
  · rw [if_pos has_field]
    exact iff_of_true has_field has_field.2
  · rw [if_neg has_field]
    exact iff_of_false has_field nofun

theorem not_hasField_iff {rules : RuleSet} {entry : String × Property} :
    ¬ rules.HasField entry ↔ rules.fieldType? entry = none := by
  rw [hasField_iff, Option.not_isSome_iff_eq_none]

end RuleSet

/-- A field is built with the type that its property has under the rules. -/
theorem Field.typeOf?_eq_fieldType? (rules : RuleSet) (entry : String × Property) :
    typeOf? ((rules.field? entry.1).getD {}) entry.2 = rules.fieldType? entry := by
  apply Option.ext
  intro type
  rw [RuleSet.fieldType?_eq_some_iff, typeOf?, RuleSet.fieldRule]
  cases ((rules.field? entry.1).getD {}).skip <;> simp

/-- The column of a property has a type, and values when there are literals to choose. It labels its
title and these values. -/
theorem Column.exists_of_ofProperty? {tableKey : LocaleKey} {rules : OrderedMap ColumnRule}
    {entry : String × Property} {column : Labelled Column}
    (made : ofProperty? tableKey rules entry = some column) :
    ∃ literals? : Option (List Json),
      column.value.title = tableKey.child entry.1 ∧ column.value.type.isSome = true ∧
      column.value.values = literals?.map (List.map (choice (tableKey.child entry.1))) ∧
      column.labels = ⟨tableKey.child entry.1, entry.2.description.getD entry.1⟩ ::
        (literals?.getD []).map (literalLabel (tableKey.child entry.1)) := by
  unfold ofProperty? at made
  cases inferred : entry.2.columnType? with
  | none => simp [inferred] at made
  | some type =>
    cases skipped : ((rules.get? entry.1).getD {}).skip with
    | true => simp [inferred, skipped] at made
    | false =>
      simp only [inferred, skipped, Bool.false_eq_true, if_false, Option.some.injEq] at made
      subst made
      by_cases is_choice : type = .enum
      · exact ⟨some (entry.2.literals.getD []), rfl, rfl, by simp [is_choice], by simp [is_choice]⟩
      · exact ⟨none, rfl, rfl, by simp [is_choice], by simp [is_choice]⟩

/-- The columns of a table are those of referenced properties and the extra columns of its rule. -/
theorem Column.mem_declared_iff {tableKey : LocaleKey} {rule : FieldRule}
    {referenced : Properties} {column : Labelled Column} :
    column ∈ declared tableKey rule referenced ↔
      (∃ entry ∈ referenced.entries, ofProperty? tableKey rule.columns entry = some column) ∨
        ∃ extra ∈ rule.extraColumns.entries, ofAttributes tableKey extra = column := by
  unfold declared
  rw [List.mem_append, List.mem_filterMap, List.mem_map]

namespace Field

theorem build_of_untyped {scope : FormScope} {rules : RuleSet} {entry : String × Property}
    (untyped : rules.fieldType? entry = none) : build scope rules entry = .ok none := by
  unfold build
  simp only [typeOf?_eq_fieldType?, untyped]

theorem build_of_typed {scope : FormScope} {rules : RuleSet} {entry : String × Property}
    {type : FieldType} (typed : rules.fieldType? entry = some type) :
    build scope rules entry =
      (withContent scope entry.1 entry.2 ((rules.field? entry.1).getD {})
        (heading scope entry.1 entry.2 type)).map fun field =>
          some { field with
            value := { field.value with extra := ((rules.field? entry.1).getD {}).extra } } := by
  unfold build
  simp only [typeOf?_eq_fieldType?, typed]

/-- A built field is its heading with its content, and the attributes of the rule over both. -/
theorem exists_of_build {scope : FormScope} {rules : RuleSet} {entry : String × Property}
    {field : Labelled Field} (built : build scope rules entry = .ok (some field)) :
    ∃ type content, rules.fieldType? entry = some type ∧
      withContent scope entry.1 entry.2 ((rules.field? entry.1).getD {})
        (heading scope entry.1 entry.2 type) = .ok content ∧
      field = { content with
        value := { content.value with extra := ((rules.field? entry.1).getD {}).extra } } := by
  cases typed : rules.fieldType? entry with
  | none => rw [build_of_untyped typed] at built; cases built
  | some type =>
    rw [build_of_typed typed] at built
    obtain ⟨content, made, field_eq⟩ := exists_of_map_ok built
    exact ⟨type, content, rfl, made, Option.some.inj field_eq⟩

theorem heading_type (scope : FormScope) (name : String) (property : Property)
    (type : FieldType) : (heading scope name property type).value.type = type := by
  unfold heading
  cases type.isVisible <;> rfl

/-- A choice gets its options and a table its columns; every other field is its heading alone. -/
theorem withContent_cases {scope : FormScope} {name : String} {property : Property}
    {rule : FieldRule} {heading content : Labelled Field}
    (made : withContent scope name property rule heading = .ok content) :
    (heading.value.type = .select ∧
      let key := scope.root.child heading.value.name
      let literals := property.literals.getD []
      content =
        { value := { heading.value with options := some (literals.map (choice key)) }
          labels := heading.labels ++ literals.map (literalLabel key) }) ∨
    (heading.value.type = .table ∧ ∃ columns, columnsOf scope name property rule = .ok columns ∧
      content =
        { value := { heading.value with columns := some columns.value, addRows := true }
          labels := heading.labels ++ columns.labels }) ∨
    (heading.value.type ≠ .select ∧ heading.value.type ≠ .table ∧ content = heading) := by
  unfold withContent at made
  split at made
  · next is_select =>
    cases made
    exact .inl ⟨is_select, rfl⟩
  · next is_table =>
    obtain ⟨columns, columns_made, rfl⟩ := exists_of_map_ok made
    exact .inr (.inl ⟨is_table, columns, columns_made, rfl⟩)
  · next not_select not_table =>
    cases made
    exact .inr (.inr ⟨not_select, not_table, rfl⟩)

/-- The columns of a table are built from the properties that its items refer to. -/
theorem columnsOf_cases {scope : FormScope} {name : String} {property : Property}
    {rule : FieldRule} {columns : Labelled (List Column)}
    (made : columnsOf scope name property rule = .ok columns) :
    (property.itemsReference = none ∧ columns = { value := [], labels := [] }) ∨
    ∃ reference referenced, property.itemsReference = some reference ∧
      scope.schema.resolve? reference = some referenced ∧
      columns = Column.build (scope.root.child (fieldName name)) rule referenced := by
  unfold columnsOf at made
  split at made
  · next no_reference =>
    cases made
    exact .inl ⟨no_reference, rfl⟩
  · next reference has_reference =>
    obtain ⟨referenced, followed, rfl⟩ := exists_of_map_ok made
    unfold Schema.follow at followed
    cases resolved : scope.schema.resolve? reference with
    | none => rw [resolved] at followed; cases followed
    | some properties =>
      rw [resolved] at followed
      cases followed
      exact .inr ⟨reference, referenced, has_reference, resolved, rfl⟩

end Field

/-- The fields of a form are built from the eligible properties, one from each. -/
theorem FormScope.fields_ok_iff {scope : FormScope} {rules : RuleSet} {properties : Properties}
    {fields : List (Labelled Field)} :
    scope.fields rules properties = .ok fields ↔
      List.Forall₂ (fun entry field => Field.build scope rules entry = .ok (some field))
        (rules.eligible properties) fields := by
  unfold FormScope.fields RuleSet.eligible
  generalize properties.entries = entries
  induction entries generalizing fields with
  | nil => cases fields <;> simp [pure, Except.pure, Except.map]
  | cons entry rest ih =>
    rw [List.mapM_cons]
    by_cases has_field : rules.HasField entry
    · obtain ⟨type, typed⟩ := Option.isSome_iff_exists.mp (RuleSet.hasField_iff.mp has_field)
      rw [List.filter_cons_of_pos (by simpa using has_field)]
      cases built : Field.build scope rules entry with
      | error failure => cases fields <;> simp [built, bind, Except.bind, Except.map]
      | ok field? =>
        cases field? with
        | none =>
          rw [Field.build_of_typed typed] at built
          generalize Field.withContent scope _ _ _ _ = result at built
          cases result <;> cases built
        | some field =>
          cases done : rest.mapM (Field.build scope rules) with
          | error failure =>
            cases fields <;> simp [built, done, ← ih, bind, Except.bind, Except.map]
          | ok others =>
            cases fields <;>
              simp [built, done, ← ih, bind, Except.bind, Except.map, pure, Except.pure]
    · have untyped := RuleSet.not_hasField_iff.mp has_field
      rw [Field.build_of_untyped untyped, List.filter_cons_of_neg (by simpa using has_field), ← ih]
      cases rest.mapM (Field.build scope rules) <;> rfl

theorem exists_related_of_forall₂ {α β : Type} {related : α → β → Prop} {sources : List α}
    {before after : List β} {target : β}
    (all : List.Forall₂ related sources (before ++ target :: after)) :
    ∃ first source rest, sources = first ++ source :: rest ∧ related source target ∧
      List.Forall₂ related rest after := by
  induction before generalizing sources with
  | nil =>
    cases all with
    | @cons source _ rest _ here later => exact ⟨[], source, rest, rfl, here, later⟩
  | cons _ _ ih =>
    cases all with
    | @cons head _ tail _ _ later =>
      obtain ⟨first, source, rest, rfl, here, others⟩ := ih later
      exact ⟨head :: first, source, rest, rfl, here, others⟩

theorem exists_mem_iff_of_forall₂ {α β : Type} {p : α → Prop} {q : β → Prop} {sources : List α}
    {targets : List β}
    (all : List.Forall₂ (fun source target => p source ↔ q target) sources targets) :
    (∃ source ∈ sources, p source) ↔ ∃ target ∈ targets, q target := by
  induction all with
  | nil => simp
  | cons here _ ih => rw [List.exists_mem_cons_iff, List.exists_mem_cons_iff, here, ih]

theorem FormScope.exists_entry_of_mem {scope : FormScope} {rules : RuleSet}
    {properties : Properties} {fields : List (Labelled Field)}
    (made : scope.fields rules properties = .ok fields) {field : Labelled Field}
    (member : field ∈ fields) :
    ∃ entry ∈ rules.eligible properties, Field.build scope rules entry = .ok (some field) := by
  obtain ⟨before, after, rfl⟩ := List.append_of_mem member
  obtain ⟨first, entry, rest, eligible_eq, built, _⟩ :=
    exists_related_of_forall₂ (fields_ok_iff.mp made)
  exact ⟨entry, by simp [eligible_eq], built⟩

/-- The fields that share a name are one field of the form. -/
def FormScope.byName (fields : List (Labelled Field)) : OrderedMap Field :=
  .ofEntries (fields.map fun field => (field.value.name, field.value))

/-- The labels of a form in the order of their registration. -/
def FormScope.labels (scope : FormScope) (fields : List (Labelled Field)) : List Label :=
  ⟨scope.root, scope.name⟩ :: fields.flatMap Labelled.labels ++ [⟨scope.root.child "save", "Save"⟩]

theorem FormScope.mem_labels_iff {scope : FormScope} {fields : List (Labelled Field)}
    {label : Label} :
    label ∈ scope.labels fields ↔
      label = ⟨scope.root, scope.name⟩ ∨ (∃ field ∈ fields, label ∈ field.labels) ∨
        label = ⟨scope.root.child "save", "Save"⟩ := by
  unfold labels
  rw [List.cons_append, List.mem_cons, List.mem_append, List.mem_flatMap, List.mem_singleton]

theorem FormScope.locales_assemble (scope : FormScope) (fields : List (Labelled Field)) :
    (scope.assemble fields).2 = LocaleMap.registerAll {} (scope.labels fields) := rfl

theorem FormScope.fields_assemble (scope : FormScope) (fields : List (Labelled Field)) :
    (scope.assemble fields).1.fields =
      (byName fields).values ++ [Field.submit (scope.root.child "save")] :=
  List.flatMap_singleton _ _

theorem FormScope.exists_of_mem_byName {fields : List (Labelled Field)} {field : Field}
    (member : field ∈ (byName fields).values) : ∃ built ∈ fields, built.value = field := by
  obtain ⟨entry, among, rfl⟩ := List.mem_map.mp member
  obtain ⟨built, from_fields, rfl⟩ :=
    List.mem_map.mp (OrderedMap.mem_of_mem_entries_ofEntries among)
  exact ⟨built, from_fields, rfl⟩

theorem FormScope.mem_fields_assemble {scope : FormScope} {fields : List (Labelled Field)}
    {field : Field} (member : field ∈ (scope.assemble fields).1.fields) :
    (∃ built ∈ fields, built.value = field) ∨ field = Field.submit (scope.root.child "save") := by
  rw [fields_assemble] at member
  rcases List.mem_append.mp member with named | submit
  · exact .inl (exists_of_mem_byName named)
  · exact .inr (List.mem_singleton.mp submit)

/-- What the fields of the form of a definition have in common. -/
def Schema.formScope (schema : Schema) (name : String) (definition : Definition)
    (operation : Operation) : FormScope :=
  { schema, name, definition, root := .root name operation }

theorem Schema.buildForm_ok_iff {schema : Schema} {name : String} {definition : Definition}
    {operation : Operation} {rules : RuleSet} {generated : GeneratedForm} :
    schema.buildForm name definition operation rules = .ok generated ↔
      ∃ properties fields,
        schema.flattenProperties name definition.properties rules = .ok properties ∧
        (schema.formScope name definition operation).fields rules properties = .ok fields ∧
        generated =
          let (form, locales) := (schema.formScope name definition operation).assemble fields
          { definition := name, operation, form, locales } := by
  constructor
  · intro built
    obtain ⟨properties, flattened, built⟩ := exists_of_bind_ok built
    obtain ⟨fields, made, built⟩ := exists_of_bind_ok built
    cases built
    exact ⟨properties, fields, flattened, made, rfl⟩
  · rintro ⟨properties, fields, flattened, made, rfl⟩
    unfold buildForm
    rw [formScope] at made
    simp only [flattened, made, bind, Except.bind]
    rfl

namespace Generator

theorem definition_ok_iff {generator : Generator} {name : String} {definition : Definition} :
    generator.definition name = .ok definition ↔
      generator.schema.definitions.get? name = some definition := by
  unfold Generator.definition
  cases generator.schema.definitions.get? name <;> simp

theorem definition_of_unknown {generator : Generator} {name : String}
    (unknown : generator.schema.definitions.get? name = none) :
    generator.definition name = .error (.unknownDefinition name) := by
  rw [Generator.definition, unknown]

theorem generateForm_of_unknown {generator : Generator} {name : String}
    (unknown : generator.schema.definitions.get? name = none) (operation : Operation) :
    generator.generateForm name operation = .error (.unknownDefinition name) := by
  rw [generateForm, definition_of_unknown unknown]
  rfl

theorem generateForm_of_skipped {generator : Generator} {name : String} {definition : Definition}
    (found : generator.schema.definitions.get? name = some definition)
    (skipped : (generator.rules.definitionRules name).isSkipped = true) (operation : Operation) :
    generator.generateForm name operation = .ok none := by
  unfold generateForm
  simp only [definition_ok_iff.mpr found, skipped, bind, Except.bind]
  rfl

theorem generateForm_of_shown {generator : Generator} {name : String} {definition : Definition}
    (found : generator.schema.definitions.get? name = some definition)
    (shown : (generator.rules.definitionRules name).isSkipped = false) (operation : Operation) :
    generator.generateForm name operation =
      (generator.build name definition (generator.rules.definitionRules name) operation).map
        some := by
  unfold generateForm
  simp only [definition_ok_iff.mpr found, shown, bind, Except.bind]
  cases generator.build name definition (generator.rules.definitionRules name) operation <;> rfl

/-- A form is generated for a definition of the schema that is not skipped and whose rules can be
read. -/
theorem generateForm_ok_iff {generator : Generator} {name : String} {operation : Operation}
    {generated : GeneratedForm} :
    generator.generateForm name operation = .ok (some generated) ↔
      ∃ definition rules,
        generator.schema.definitions.get? name = some definition ∧
        (generator.rules.definitionRules name).isSkipped = false ∧
        (generator.rules.definitionRules name).resolve operation = .ok rules ∧
        generator.schema.buildForm name definition operation rules = .ok generated := by
  constructor
  · intro done
    obtain ⟨definition, found, done⟩ := exists_of_bind_ok done
    cases skipped : (generator.rules.definitionRules name).isSkipped with
    | true =>
      simp only [skipped, if_true] at done
      cases done
    | false =>
      simp only [skipped, Bool.false_eq_true, if_false] at done
      obtain ⟨form, built, done⟩ := exists_of_bind_ok done
      cases done
      obtain ⟨rules, resolved, built⟩ := exists_of_bind_ok built
      exact ⟨definition, rules, definition_ok_iff.mp found, rfl, resolved, built⟩
  · rintro ⟨definition, rules, found, skipped, resolved, built⟩
    unfold generateForm build
    simp only [definition_ok_iff.mpr found, skipped, resolved, built, bind, Except.bind]
    rfl

end Generator
end SchemaForms
