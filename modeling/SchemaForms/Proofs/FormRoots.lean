import SchemaForms.Proofs.FormFailures
import SchemaForms.Proofs.LabelCoverage
/-! The same form below two roots. Forms are built from rules that do not know the operation, and
the root of the operation stands in front of every key. Keys that coincide below one root coincide
below the other, so that fields and labels replace each other in the same places. -/
namespace SchemaForms

namespace Entries
variable {α β : Type} {rename : String → String}

theorem insert_map (injective : rename.Injective) (f : α → β) (entries : Entries α)
    (name : String) (value : α) :
    insert (entries.map (Prod.map rename f)) (rename name) (f value) =
      (insert entries name value).map (Prod.map rename f) := by
  unfold insert
  induction entries with
  | nil => rfl
  | cons entry rest ih =>
    obtain ⟨first, old⟩ := entry
    rw [List.map_cons, Prod.map_apply, upsert, upsert, ih]
    by_cases same : first = name
    · rw [if_pos same, if_pos (congrArg rename same)]
      rfl
    · rw [if_neg same, if_neg (injective.ne same)]
      rfl

/-- Names that stay apart are replaced where they were. -/
theorem insertAll_map (injective : rename.Injective) (f : α → β) (entries added : Entries α) :
    insertAll (entries.map (Prod.map rename f)) (added.map (Prod.map rename f)) =
      (insertAll entries added).map (Prod.map rename f) := by
  induction added generalizing entries with
  | nil => rfl
  | cons entry rest ih =>
    obtain ⟨name, value⟩ := entry
    have step := ih (insert entries name value)
    rwa [← insert_map injective] at step

end Entries

namespace LocaleKey

/-- The place of the key below a root. -/
def under (root key : LocaleKey) : LocaleKey := ⟨root.path ++ key.path⟩

/-- The key with one root in the place of another. -/
def moved (source target key : LocaleKey) : LocaleKey :=
  if source.path.toList <+: key.path.toList then
    ⟨target.path ++ String.ofList (key.path.toList.drop source.path.toList.length)⟩
  else key

theorem moved_under (source target key : LocaleKey) :
    moved source target (source.under key) = target.under key := by
  have at_front : source.path.toList <+: (source.under key).path.toList :=
    ⟨key.path.toList, String.toList_append.symm⟩
  rw [moved, if_pos at_front, under, String.toList_append, List.drop_left, String.ofList_toList]
  rfl

/-- Keys are mapped one to one, and what is below a key stays below it. -/
structure Rekeying (f : LocaleKey → LocaleKey) : Prop where
  child : ∀ key name, f (key.child name) = (f key).child name
  injective : f.Injective

theorem rekeying_under (root : LocaleKey) : Rekeying root.under where
  child key name := by simp only [under, LocaleKey.child, String.append_assoc]
  injective first second same := by
    have paths := congrArg path same
    simp only [under] at paths
    cases first
    cases second
    exact congrArg mk ((String.append_right_inj _).mp paths)

/-- The map of keys as one of their texts. -/
def onPath (f : LocaleKey → LocaleKey) (path : String) : String := (f ⟨path⟩).path

theorem Rekeying.onPath_injective {f : LocaleKey → LocaleKey} (rekeying : Rekeying f) :
    (onPath f).Injective := by
  intro first second same
  have keys : f ⟨first⟩ = f ⟨second⟩ := congrArg LocaleKey.mk same
  exact congrArg path (rekeying.injective keys)

end LocaleKey

def Choice.rekey (f : LocaleKey → LocaleKey) (choice : Choice) : Choice :=
  { choice with label := f choice.label }

def Label.rekey (f : LocaleKey → LocaleKey) (label : Label) : Label :=
  { label with key := f label.key }

def Column.rekey (f : LocaleKey → LocaleKey) (column : Column) : Column :=
  { column with
    title := f column.title, values := column.values.map (List.map (Choice.rekey f)) }

def Field.rekey (f : LocaleKey → LocaleKey) (field : Field) : Field :=
  { field with
    title := field.title.map f
    text := field.text.map f
    options := field.options.map (List.map (Choice.rekey f))
    columns := field.columns.map (List.map (Column.rekey f)) }

def FormSection.rekey (f : LocaleKey → LocaleKey) (part : FormSection) : FormSection :=
  { fields := part.fields.map (Field.rekey f) }

/-- The form with its generated keys replaced. Attributes of rules stay as they are. -/
def Form.rekey (f : LocaleKey → LocaleKey) (form : Form) : Form :=
  { title := f form.title, sections := form.sections.map (FormSection.rekey f) }

def FormScope.rekey (f : LocaleKey → LocaleKey) (scope : FormScope) : FormScope :=
  { scope with root := f scope.root }

/-- The part with its keys replaced, in its value and in its labels. -/
def Labelled.rekey {α : Type} (rekeyValue : α → α) (f : LocaleKey → LocaleKey)
    (part : Labelled α) : Labelled α :=
  { value := rekeyValue part.value, labels := part.labels.map (Label.rekey f) }

section Composition
variable (f g : LocaleKey → LocaleKey)

theorem Choice.rekey_comp : Choice.rekey g ∘ Choice.rekey f = Choice.rekey (g ∘ f) := rfl

theorem Column.rekey_comp : Column.rekey g ∘ Column.rekey f = Column.rekey (g ∘ f) := by
  funext column
  simp only [Function.comp_apply, rekey, Option.map_map, List.map_comp_map, Choice.rekey_comp]

theorem Field.rekey_comp : Field.rekey g ∘ Field.rekey f = Field.rekey (g ∘ f) := by
  funext field
  simp only [Function.comp_apply, rekey, Option.map_map, List.map_comp_map, Choice.rekey_comp,
    Column.rekey_comp]

theorem Form.rekey_rekey (form : Form) : (form.rekey f).rekey g = form.rekey (g ∘ f) := by
  have sections_eq : FormSection.rekey g ∘ FormSection.rekey f = FormSection.rekey (g ∘ f) := by
    funext part
    simp only [Function.comp_apply, FormSection.rekey, List.map_map, Field.rekey_comp]
  simp only [rekey, List.map_map, sections_eq, Function.comp_apply]

end Composition

section Keys
variable (f : LocaleKey → LocaleKey)

theorem Column.held_rekey (column : Column) :
    (column.rekey f).held = column.held.map f := by
  cases values_eq : column.values <;> simp [held, rekey, values_eq, Choice.rekey]

theorem Field.keysWith_held_rekey (field : Field) :
    (field.rekey f).keysWith Column.held = (field.keysWith Column.held).map f := by
  have options_eq : ((field.rekey f).options.getD []).map Choice.label =
      ((field.options.getD []).map Choice.label).map f := by
    cases options_eq : field.options <;> simp [rekey, options_eq, Choice.rekey]
  have columns_eq : ((field.rekey f).columns.getD []).flatMap Column.held =
      ((field.columns.getD []).flatMap Column.held).map f := by
    cases columns_eq : field.columns <;>
      simp [rekey, columns_eq, List.flatMap_map, List.map_flatMap, Column.held_rekey]
  have title_eq : (field.rekey f).title.toList = field.title.toList.map f := Option.toList_map ..
  have text_eq : (field.rekey f).text.toList = field.text.toList.map f := Option.toList_map ..
  simp only [keysWith, options_eq, columns_eq, title_eq, text_eq, List.map_append]

theorem Form.keysWith_held_rekey (form : Form) :
    (form.rekey f).keysWith Column.held = (form.keysWith Column.held).map f := by
  simp only [keysWith, fields, rekey, FormSection.rekey, List.map_cons, List.flatMap_map,
    List.map_flatMap, List.flatMap_assoc, Field.keysWith_held_rekey]

end Keys

section Stages
variable {f : LocaleKey → LocaleKey} (rekeying : LocaleKey.Rekeying f)
include rekeying

theorem choice_rekey (parent : LocaleKey) :
    choice (f parent) = Choice.rekey f ∘ choice parent := by
  funext literal
  exact congrArg (Choice.mk · literal) (rekeying.child parent _).symm

theorem literalLabel_rekey (parent : LocaleKey) :
    literalLabel (f parent) = Label.rekey f ∘ literalLabel parent := by
  funext literal
  exact congrArg (Label.mk · _) (rekeying.child parent _).symm

namespace Column

theorem ofProperty?_rekey (tableKey : LocaleKey) (rules : OrderedMap ColumnRule)
    (entry : String × Property) :
    ofProperty? (f tableKey) rules entry =
      (ofProperty? tableKey rules entry).map (Labelled.rekey (Column.rekey f) f) := by
  unfold ofProperty?
  cases inferred : entry.2.columnType? with
  | none => simp only [inferred, Option.map_none]
  | some type =>
    cases skipped : ((rules.get? entry.1).getD {}).skip with
    | true => simp only [inferred, skipped, if_true, Option.map_none]
    | false =>
      simp only [inferred, skipped, Bool.false_eq_true, if_false, Option.map_some,
        ← rekeying.child, choice_rekey rekeying, literalLabel_rekey rekeying]
      by_cases is_choice : type = .enum <;>
        simp [is_choice, Labelled.rekey, Column.rekey, Label.rekey]

theorem ofAttributes_rekey (tableKey : LocaleKey) (entry : String × OrderedMap Json) :
    ofAttributes (f tableKey) entry =
      (ofAttributes tableKey entry).rekey (Column.rekey f) f := by
  unfold ofAttributes
  simp only [← rekeying.child]
  cases entry.2.contains "title" <;>
    simp [Labelled.rekey, Column.rekey, Label.rekey]

theorem declared_rekey (tableKey : LocaleKey) (rule : FieldRule) (referenced : Properties) :
    declared (f tableKey) rule referenced =
      (declared tableKey rule referenced).map (Labelled.rekey (Column.rekey f) f) := by
  have of_property : ofProperty? (f tableKey) rule.columns =
      fun entry => (ofProperty? tableKey rule.columns entry).map
        (Labelled.rekey (Column.rekey f) f) :=
    funext (ofProperty?_rekey rekeying tableKey rule.columns)
  have of_attributes : ofAttributes (f tableKey) =
      Labelled.rekey (Column.rekey f) f ∘ ofAttributes tableKey :=
    funext (ofAttributes_rekey rekeying tableKey)
  unfold declared
  rw [of_property, of_attributes, List.map_append, List.map_filterMap, List.map_map]

omit rekeying in
/-- Keys do not decide the order of columns. -/
theorem sort_rekey (columns : List Column) :
    sort (columns.map (Column.rekey f)) = (sort columns).map (Column.rekey f) :=
  (List.map_mergeSort (f := Column.rekey f) fun _ _ _ _ => rfl).symm

theorem build_rekey (tableKey : LocaleKey) (rule : FieldRule) (referenced : Properties) :
    build (f tableKey) rule referenced =
      (build tableKey rule referenced).rekey (List.map (Column.rekey f)) f := by
  unfold build
  simp only [declared_rekey rekeying, Labelled.rekey, ← sort_rekey, List.map_map,
    List.flatMap_map, List.map_flatMap]
  rfl

end Column

namespace Field

theorem heading_rekey (scope : FormScope) (name : String) (property : Property)
    (type : FieldType) :
    heading (scope.rekey f) name property type =
      (heading scope name property type).rekey (Field.rekey f) f := by
  unfold heading
  cases visible : type.isVisible <;>
    simp [Labelled.rekey, Field.rekey, Label.rekey, FormScope.rekey, rekeying.child]

theorem columnsOf_rekey (scope : FormScope) (name : String) (property : Property)
    (rule : FieldRule) :
    columnsOf (scope.rekey f) name property rule =
      (columnsOf scope name property rule).map
        (Labelled.rekey (List.map (Column.rekey f)) f) := by
  unfold columnsOf
  cases property.itemsReference with
  | none => rfl
  | some reference =>
    simp only [FormScope.rekey, ← rekeying.child]
    cases scope.schema.follow scope.name name reference with
    | error failure => rfl
    | ok referenced => exact congrArg Except.ok (Column.build_rekey rekeying _ rule referenced)

theorem withContent_rekey (scope : FormScope) (name : String) (property : Property)
    (rule : FieldRule) (heading : Labelled Field) :
    withContent (scope.rekey f) name property rule (heading.rekey (Field.rekey f) f) =
      (withContent scope name property rule heading).map (Labelled.rekey (Field.rekey f) f) := by
  have type_eq : (heading.rekey (Field.rekey f) f).value.type = heading.value.type := rfl
  unfold withContent
  rw [type_eq]
  split
  · simp [Except.map, Labelled.rekey, Field.rekey, FormScope.rekey, ← rekeying.child,
      choice_rekey rekeying, literalLabel_rekey rekeying]
  · rw [columnsOf_rekey rekeying]
    cases columnsOf scope name property rule <;>
      simp [Except.map, Labelled.rekey, Field.rekey]
  · rfl

theorem build_rekey (scope : FormScope) (rules : RuleSet) (entry : String × Property) :
    build (scope.rekey f) rules entry =
      (build scope rules entry).map (Option.map (Labelled.rekey (Field.rekey f) f)) := by
  cases typed : rules.fieldType? entry with
  | none =>
    rw [build_of_untyped typed, build_of_untyped typed]
    rfl
  | some type =>
    rw [build_of_typed typed, build_of_typed typed, heading_rekey rekeying,
      withContent_rekey rekeying]
    cases withContent scope entry.1 entry.2 ((rules.field? entry.1).getD {})
      (heading scope entry.1 entry.2 type) <;> rfl

end Field

namespace FormScope

theorem fields_rekey (scope : FormScope) (rules : RuleSet) (properties : Properties) :
    (scope.rekey f).fields rules properties =
      (scope.fields rules properties).map (List.map (Labelled.rekey (Field.rekey f) f)) := by
  have each : Field.build (scope.rekey f) rules = fun entry =>
      (Field.build scope rules entry).map (Option.map (Labelled.rekey (Field.rekey f) f)) :=
    funext (Field.build_rekey rekeying scope rules)
  unfold fields
  rw [each, mapM_map_result]
  cases properties.entries.mapM (Field.build scope rules) with
  | error failure => rfl
  | ok results =>
    simp [Except.map, List.filterMap_map, List.map_filterMap]

omit rekeying in
theorem byName_rekey (fields : List (Labelled Field)) :
    (byName (fields.map (Labelled.rekey (Field.rekey f) f))).values =
      (byName fields).values.map (Field.rekey f) := by
  have pairs_eq : ((fields.map (Labelled.rekey (Field.rekey f) f)).map fun field =>
      (field.value.name, field.value)) =
        (fields.map fun field => (field.value.name, field.value)).map
          (Prod.map id (Field.rekey f)) := by
    rw [List.map_map, List.map_map]
    rfl
  have inserted := Entries.insertAll_map Function.injective_id (Field.rekey f) []
    (fields.map fun field => (field.value.name, field.value))
  unfold byName OrderedMap.values OrderedMap.ofEntries OrderedMap.insertAll
  rw [pairs_eq]
  exact (congrArg (List.map Prod.snd) inserted).trans
    (by simp [OrderedMap.empty, Function.comp_def])

theorem form_assemble_rekey (scope : FormScope) (fields : List (Labelled Field)) :
    ((scope.rekey f).assemble (fields.map (Labelled.rekey (Field.rekey f) f))).1 =
      (scope.assemble fields).1.rekey f := by
  have form_eq (scope : FormScope) (fields : List (Labelled Field)) :
      (scope.assemble fields).1 =
        ⟨scope.root, [⟨(byName fields).values ++ [Field.submit (scope.root.child "save")]⟩]⟩ := rfl
  have save_eq : Field.submit ((scope.rekey f).root.child "save") =
      (Field.submit (scope.root.child "save")).rekey f := by
    rw [FormScope.rekey, ← rekeying.child]
    rfl
  rw [form_eq, form_eq, byName_rekey, save_eq, Form.rekey, List.map_singleton, FormSection.rekey,
    List.map_append]
  rfl

theorem labels_rekey (scope : FormScope) (fields : List (Labelled Field)) :
    (scope.rekey f).labels (fields.map (Labelled.rekey (Field.rekey f) f)) =
      (scope.labels fields).map (Label.rekey f) := by
  simp [labels, Labelled.rekey, Label.rekey, FormScope.rekey, rekeying.child, List.flatMap_map,
    List.map_flatMap]

theorem locales_assemble_rekey (scope : FormScope) (fields : List (Labelled Field)) :
    ((scope.rekey f).assemble (fields.map (Labelled.rekey (Field.rekey f) f))).2.entries =
      (scope.assemble fields).2.entries.map (Prod.map (LocaleKey.onPath f) id) := by
  have pairs_eq : ((scope.labels fields).map (Label.rekey f)).map
      (fun label => (label.key.path, label.text)) =
        ((scope.labels fields).map fun label => (label.key.path, label.text)).map
          (Prod.map (LocaleKey.onPath f) id) := by
    rw [List.map_map, List.map_map]
    rfl
  rw [locales_assemble, locales_assemble, labels_rekey rekeying, LocaleMap.registerAll_eq,
    LocaleMap.registerAll_eq, pairs_eq]
  exact Entries.insertAll_map rekeying.onPath_injective id [] _

end FormScope
end Stages

/-- The scope of a form without its root. -/
def Schema.bareScope (schema : Schema) (name : String) (definition : Definition) : FormScope :=
  { schema, name, definition, root := ⟨""⟩ }

theorem Schema.formScope_eq_rekey (schema : Schema) (name : String) (definition : Definition)
    (operation : Operation) :
    schema.formScope name definition operation =
      (schema.bareScope name definition).rekey (LocaleKey.under (.root name operation)) := by
  rw [formScope, FormScope.rekey, LocaleKey.under, bareScope, String.append_empty]

/-- What is generated for an operation is generated without a root, and stands below that of the
operation. -/
theorem Schema.exists_bare_of_buildForm {schema : Schema} {name : String} {definition : Definition}
    {operation : Operation} {rules : RuleSet} {generated : GeneratedForm}
    (built : schema.buildForm name definition operation rules = .ok generated) :
    ∃ properties fields,
      schema.flattenProperties name definition.properties rules = .ok properties ∧
      (schema.bareScope name definition).fields rules properties = .ok fields ∧
      let bare := (schema.bareScope name definition).assemble fields
      let place := LocaleKey.under (.root name operation)
      generated.definition = name ∧ generated.form = bare.1.rekey place ∧
        generated.locales.entries = bare.2.entries.map (Prod.map (LocaleKey.onPath place) id) := by
  have rekeying := LocaleKey.rekeying_under (.root name operation)
  obtain ⟨properties, _, flattened, made, rfl⟩ := buildForm_ok_iff.mp built
  rw [formScope_eq_rekey, FormScope.fields_rekey rekeying] at made
  obtain ⟨fields, bare_made, rfl⟩ := exists_of_map_ok made
  rw [formScope_eq_rekey]
  exact ⟨properties, fields, flattened, bare_made, rfl,
    FormScope.form_assemble_rekey rekeying _ _, FormScope.locales_assemble_rekey rekeying _ _⟩

/-- The forms of two operations under the same rules are the same below their roots. -/
theorem Schema.moved_of_buildForm {schema : Schema} {name : String} {definition : Definition}
    {rules : RuleSet} {first second : Operation} {generated moved : GeneratedForm}
    (built : schema.buildForm name definition first rules = .ok generated)
    (moved_built : schema.buildForm name definition second rules = .ok moved) :
    let move := (LocaleKey.root name first).moved (.root name second)
    moved.definition = generated.definition ∧ moved.form = generated.form.rekey move ∧
      moved.locales.entries =
        generated.locales.entries.map (Prod.map (LocaleKey.onPath move) id) := by
  intro move
  obtain ⟨properties, fields, flattened, made, name_eq, form_eq, locales_eq⟩ :=
    exists_bare_of_buildForm built
  obtain ⟨properties', fields', flattened', made', moved_name, moved_form, moved_locales⟩ :=
    exists_bare_of_buildForm moved_built
  cases flattened.symm.trans flattened'
  cases made.symm.trans made'
  have moves : move ∘ LocaleKey.under (.root name first) = LocaleKey.under (.root name second) :=
    funext (LocaleKey.moved_under _ _)
  have moves_path : LocaleKey.onPath move ∘ LocaleKey.onPath (.under (.root name first)) =
      LocaleKey.onPath (.under (.root name second)) := by
    rw [← moves]
    rfl
  refine ⟨moved_name.trans name_eq.symm, ?_, ?_⟩
  · rw [moved_form, form_eq, Form.rekey_rekey, moves]
  · rw [moved_locales, locales_eq, List.map_map, Prod.map_comp_map, moves_path, Function.comp_id]

/-- All keys of a form stand below its root. -/
theorem Schema.exists_under_of_buildForm {schema : Schema} {name : String}
    {definition : Definition} {rules : RuleSet} {operation : Operation} {generated : GeneratedForm}
    (built : schema.buildForm name definition operation rules = .ok generated) :
    let root := LocaleKey.root name operation
    (∀ key ∈ generated.form.keysWith Column.held, ∃ bare, key = root.under bare) ∧
      ∀ path ∈ generated.locales.keys, ∃ bare, ⟨path⟩ = root.under bare := by
  obtain ⟨_, _, _, _, _, form_eq, locales_eq⟩ := exists_bare_of_buildForm built
  refine ⟨?_, ?_⟩
  · intro key member
    rw [form_eq, Form.keysWith_held_rekey] at member
    obtain ⟨bare, _, rfl⟩ := List.mem_map.mp member
    exact ⟨bare, rfl⟩
  · intro path member
    rw [OrderedMap.keys, Entries.keys, locales_eq, List.map_map] at member
    obtain ⟨entry, _, rfl⟩ := List.mem_map.mp member
    exact ⟨⟨entry.1⟩, rfl⟩

/-- Failures of a form do not depend on its operation. -/
theorem Schema.unresolved_of_buildForm_error {schema : Schema} {name : String}
    {definition : Definition} {operation : Operation} {rules : RuleSet} {failure : FormError}
    (failed : schema.buildForm name definition operation rules = .error failure) :
    ∃ property reference, ∀ other, schema.buildForm name definition other rules =
      .error (.unresolvedReference name property reference) := by
  have ways := buildForm_error_iff.mp failed
  have anywhere (other : Operation) :
      schema.buildForm name definition other rules = .error failure :=
    buildForm_error_iff.mpr ways
  rcases ways with first | ⟨_, _, first⟩
  · obtain ⟨entry, _, _, reference, _, _, _, _, rfl⟩ := exists_mem_of_firstFailure first
    exact ⟨entry.1, reference, anywhere⟩
  · obtain ⟨entry, _, reference, _, _, _, rfl⟩ := exists_mem_of_firstFailure first
    exact ⟨entry.1, reference, anywhere⟩

/-- When both operations have the same rules, their forms fail on the same unresolved reference or
are the same but for the root of their keys. All keys that the generator makes have that root in
front, and nothing else is replaced. -/
theorem Generator.generateForm_of_same_rules {generator : Generator} {name : String}
    {definition : Definition} {rules : RuleSet}
    (found : generator.schema.definitions.get? name = some definition)
    (update_rules : (generator.rules.definitionRules name).resolve .update = .ok rules)
    (create_rules : (generator.rules.definitionRules name).resolve .create = .ok rules) :
    let build := generator.build name definition (generator.rules.definitionRules name)
    let source := LocaleKey.root name .update
    let move := source.moved (.root name .create)
    (∀ operation, generator.generateForm name operation =
      if (generator.rules.definitionRules name).isSkipped then .ok none
      else (build operation).map some) ∧
    ((∃ property reference, ∀ operation,
        build operation = .error (.unresolvedReference name property reference)) ∨
      ∃ updated created, build .update = .ok updated ∧ build .create = .ok created ∧
        created.definition = updated.definition ∧
        created.form = updated.form.rekey move ∧
        created.locales.entries =
          updated.locales.entries.map (Prod.map (LocaleKey.onPath move) id) ∧
        (∀ key ∈ updated.form.keysWith Column.held, ∃ bare, key = source.under bare) ∧
        ∀ path ∈ updated.locales.keys, ∃ bare, ⟨path⟩ = source.under bare) := by
  intro build source move
  refine ⟨?_, ?_⟩
  · intro operation
    cases skipped : (generator.rules.definitionRules name).isSkipped with
    | true => rw [generateForm_of_skipped found skipped, if_pos rfl]
    | false => rw [generateForm_of_shown found skipped, if_neg (by decide)]
  have build_eq (operation : Operation) :
      build operation = generator.schema.buildForm name definition operation rules := by
    have resolved : (generator.rules.definitionRules name).resolve operation = .ok rules := by
      cases operation <;> assumption
    change (do generator.schema.buildForm name definition operation (← _)) = _
    rw [resolved]
    rfl
  simp only [build_eq]
  cases update_outcome : generator.schema.buildForm name definition .update rules with
  | error failure => exact .inl (Schema.unresolved_of_buildForm_error update_outcome)
  | ok updated =>
    cases create_outcome : generator.schema.buildForm name definition .create rules with
    | error failure =>
      obtain ⟨_, _, everywhere⟩ := Schema.unresolved_of_buildForm_error create_outcome
      cases update_outcome.symm.trans (everywhere .update)
    | ok created =>
      obtain ⟨name_eq, form_eq, locales_eq⟩ :=
        Schema.moved_of_buildForm update_outcome create_outcome
      obtain ⟨keys_under, paths_under⟩ := Schema.exists_under_of_buildForm update_outcome
      exact .inr ⟨updated, created, rfl, rfl, name_eq, form_eq, locales_eq, keys_under,
        paths_under⟩

theorem resolve_invoices_update :
    (invoices.rules.definitionRules "Invoice").resolve .update = .ok invoiceRules := by
  decide +kernel

/-- The form for changing an invoice is that for making one below its own root. -/
theorem invoiceForm_moved :
    invoices.schema.definitions.get? "Invoice" = some { properties := invoiceProperties } ∧
      (invoices.rules.definitionRules "Invoice").resolve .update = .ok invoiceRules ∧
      (invoices.rules.definitionRules "Invoice").resolve .create = .ok invoiceRules ∧
      ∃ updated, invoices.generateForm "Invoice" .update = .ok (some updated) ∧
        let move := (LocaleKey.root "Invoice" .update).moved (.root "Invoice" .create)
        invoiceForm.form = updated.form.rekey move ∧
          invoiceForm.locales.entries =
            updated.locales.entries.map (Prod.map (LocaleKey.onPath move) id) := by
  have found : invoices.schema.definitions.get? "Invoice" =
      some { properties := invoiceProperties } := rfl
  refine ⟨found, resolve_invoices_update, resolve_invoices, ?_⟩
  obtain ⟨form_eq, ways⟩ :=
    Generator.generateForm_of_same_rules found resolve_invoices_update resolve_invoices
  have shown : (invoices.rules.definitionRules "Invoice").isSkipped = false := by decide
  have created_eq := generateForm_invoices
  rw [form_eq .create, shown] at created_eq
  rcases ways with ⟨_, _, fails⟩ | ⟨updated, created, updates, creates, _, form, locales, _⟩
  · rw [fails .create] at created_eq
    cases created_eq
  · rw [creates] at created_eq
    cases created_eq
    refine ⟨updated, ?_, form, locales⟩
    rw [form_eq .update, shown, updates]
    rfl

end SchemaForms
