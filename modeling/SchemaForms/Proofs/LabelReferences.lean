import SchemaForms.Proofs.FormDocuments
import SchemaForms.Proofs.FormFields
/-! Every reference that a form makes to its locale map finds its label there. Each part of a form
registers the keys it refers to, and labels outlive the fields that brought them. -/
namespace SchemaForms

namespace LocaleMap

/-- Registration is insertion of the labels in their order. -/
theorem registerAll_eq (map : LocaleMap) (labels : List Label) :
    registerAll map labels =
      map.insertAll (labels.map fun label => (label.key.path, label.text)) := by
  induction labels generalizing map with
  | nil => rfl
  | cons label rest ih => exact ih (map.register label)

theorem mem_keys_registerAll {map : LocaleMap} {labels : List Label} {path : String} :
    path ∈ (registerAll map labels).keys ↔
      path ∈ map.keys ∨ ∃ label ∈ labels, label.key.path = path := by
  rw [registerAll_eq, OrderedMap.keys, OrderedMap.insertAll, Entries.mem_keys_insertAll]
  simp only [OrderedMap.keys, Entries.keys, List.map_map, List.mem_map, Function.comp_apply]

end LocaleMap

/-- The keys that the labels of a part register. -/
def Labelled.keys {α : Type} (part : Labelled α) : List LocaleKey := part.labels.map Label.key

namespace Column

/-- The keys that a column refers to, without a title that it brings itself. -/
def references (column : Column) : List LocaleKey :=
  (if column.extra.contains "title" then [] else [column.title]) ++
    (column.values.getD []).map Choice.label

theorem mem_references_iff {column : Column} {key : LocaleKey} :
    key ∈ column.references ↔
      (column.extra.contains "title" = false ∧ key = column.title) ∨
        ∃ choice ∈ column.values.getD [], choice.label = key := by
  unfold references
  cases column.extra.contains "title" <;> simp

theorem ofProperty?_references {tableKey : LocaleKey} {rules : OrderedMap ColumnRule}
    {entry : String × Property} {column : Labelled Column}
    (made : ofProperty? tableKey rules entry = some column) :
    column.value.references ⊆ column.keys := by
  obtain ⟨literals?, title, _, values, labels⟩ := exists_of_ofProperty? made
  intro key member
  rw [Labelled.keys, labels]
  rcases mem_references_iff.mp member with ⟨_, rfl⟩ | ⟨choice, chosen, rfl⟩
  · rw [title]
    exact List.mem_cons_self
  · cases literals? with
    | none => simp [values] at chosen
    | some literals =>
      rw [values, Option.map_some, Option.getD_some] at chosen
      obtain ⟨literal, among, rfl⟩ := List.mem_map.mp chosen
      exact List.mem_cons_of_mem _ (List.mem_map_of_mem (List.mem_map_of_mem among))

/-- The order, which is no attribute of a column, is not its title. -/
theorem contains_title_ofAttributes (tableKey : LocaleKey) (entry : String × OrderedMap Json) :
    (ofAttributes tableKey entry).value.extra.contains "title" = entry.2.contains "title" := by
  have kept : (entry.2.erase "order").contains "title" = entry.2.contains "title" := by
    rw [OrderedMap.contains, OrderedMap.get?_erase, if_neg (by decide)]
    rfl
  exact kept

theorem ofAttributes_references (tableKey : LocaleKey) (entry : String × OrderedMap Json) :
    (ofAttributes tableKey entry).value.references ⊆ (ofAttributes tableKey entry).keys := by
  intro key member
  rw [references, contains_title_ofAttributes] at member
  cases brings : entry.2.contains "title" with
  | true => simp [ofAttributes, brings] at member
  | false => simpa [Labelled.keys, ofAttributes, brings] using member

/-- Sorting moves columns but keeps what they refer to. -/
theorem build_references (tableKey : LocaleKey) (rule : FieldRule) (referenced : Properties) :
    (build tableKey rule referenced).value.flatMap references ⊆
      (build tableKey rule referenced).keys := by
  intro key member
  obtain ⟨value, sorted, refers⟩ := List.mem_flatMap.mp member
  obtain ⟨column, declares, rfl⟩ := List.mem_map.mp (List.mem_mergeSort.mp sorted)
  have registered : key ∈ column.keys := by
    rcases mem_declared_iff.mp declares with ⟨_, _, made⟩ | ⟨extra, _, rfl⟩
    · exact ofProperty?_references made refers
    · exact ofAttributes_references tableKey extra refers
  obtain ⟨label, among, rfl⟩ := List.mem_map.mp registered
  exact List.mem_map.mpr ⟨label, List.mem_flatMap.mpr ⟨column, declares, among⟩, rfl⟩

end Column

namespace Field

/-- The keys that a field and its columns refer to. -/
def references (field : Field) : List LocaleKey :=
  field.title.toList ++ field.text.toList ++ (field.options.getD []).map Choice.label ++
    (field.columns.getD []).flatMap Column.references

theorem heading_references (scope : FormScope) (name : String) (property : Property)
    (type : FieldType) :
    (heading scope name property type).value.references ⊆
      (heading scope name property type).keys := by
  unfold heading
  cases type.isVisible with
  | true => exact List.Subset.refl _
  | false => exact List.nil_subset _

theorem columnsOf_references {scope : FormScope} {name : String} {property : Property}
    {rule : FieldRule} {columns : Labelled (List Column)}
    (made : columnsOf scope name property rule = .ok columns) :
    columns.value.flatMap Column.references ⊆ columns.keys := by
  rcases columnsOf_cases made with ⟨_, rfl⟩ | ⟨_, _, _, _, rfl⟩
  · exact List.nil_subset _
  · exact Column.build_references _ _ _

theorem mem_references_iff {field : Field} {key : LocaleKey} :
    key ∈ field.references ↔
      field.title = some key ∨ field.text = some key ∨
        (∃ choice ∈ field.options.getD [], choice.label = key) ∨
        key ∈ (field.columns.getD []).flatMap Column.references := by
  unfold references
  simp only [List.mem_append, Option.mem_toList, List.mem_map, or_assoc]

/-- The content of a part adds choices or columns, each with its labels. -/
theorem withContent_references {scope : FormScope} {name : String} {property : Property}
    {rule : FieldRule} {heading content : Labelled Field}
    (made : withContent scope name property rule heading = .ok content)
    (registered : heading.value.references ⊆ heading.keys) :
    content.value.references ⊆ content.keys := by
  have kept {added : List Label} {key : LocaleKey} (member : key ∈ heading.value.references) :
      key ∈ (heading.labels ++ added).map Label.key := by
    rw [List.map_append]
    exact List.mem_append_left _ (registered member)
  rcases withContent_cases made with ⟨_, rfl⟩ | ⟨_, columns, columns_made, rfl⟩ | ⟨_, _, rfl⟩
  · intro key member
    rcases mem_references_iff.mp member with title | text | ⟨choice, chosen, rfl⟩ | columns
    · exact kept (mem_references_iff.mpr (.inl title))
    · exact kept (mem_references_iff.mpr (.inr (.inl text)))
    · obtain ⟨literal, among, rfl⟩ := List.mem_map.mp chosen
      exact List.mem_map_of_mem (List.mem_append_right _ (List.mem_map_of_mem among))
    · exact kept (mem_references_iff.mpr (.inr (.inr (.inr columns))))
  · intro key member
    rcases mem_references_iff.mp member with title | text | options | in_columns
    · exact kept (mem_references_iff.mpr (.inl title))
    · exact kept (mem_references_iff.mpr (.inr (.inl text)))
    · exact kept (mem_references_iff.mpr (.inr (.inr (.inl options))))
    · rw [Labelled.keys, List.map_append]
      exact List.mem_append_right _ (columnsOf_references columns_made in_columns)
  · exact registered

theorem build_references {scope : FormScope} {rules : RuleSet} {entry : String × Property}
    {field : Labelled Field} (built : build scope rules entry = .ok (some field)) :
    field.value.references ⊆ field.keys := by
  obtain ⟨type, content, _, made, rfl⟩ := exists_of_build built
  have registered : content.value.references ⊆ content.keys :=
    withContent_references made (heading_references scope entry.1 entry.2 type)
  -- The attributes of the rule are laid over the document, not over the keys.
  exact registered

end Field

namespace Form

/-- The keys that a form refers to. -/
def references (form : Form) : List LocaleKey :=
  form.title :: form.fields.flatMap Field.references

theorem mem_keys_assemble_iff {scope : FormScope} {fields : List (Labelled Field)}
    {path : String} :
    path ∈ (scope.assemble fields).2.keys ↔
      ∃ label ∈ scope.labels fields, label.key.path = path := by
  rw [FormScope.locales_assemble, LocaleMap.mem_keys_registerAll]
  exact or_iff_right List.not_mem_nil

/-- Fields that a later field replaces leave their labels behind. -/
theorem assemble_references {scope : FormScope} {fields : List (Labelled Field)}
    (registered : ∀ field ∈ fields, field.value.references ⊆ field.keys) :
    ∀ key ∈ (scope.assemble fields).1.references,
      (scope.assemble fields).2.contains key.path := by
  intro key member
  rw [OrderedMap.contains_iff, mem_keys_assemble_iff]
  rcases List.mem_cons.mp member with rfl | in_fields
  · exact ⟨⟨scope.root, scope.name⟩, FormScope.mem_labels_iff.mpr (.inl rfl), rfl⟩
  · obtain ⟨field, among, refers⟩ := List.mem_flatMap.mp in_fields
    rcases FormScope.mem_fields_assemble among with ⟨built, from_fields, rfl⟩ | rfl
    · obtain ⟨label, brought, rfl⟩ := List.mem_map.mp (registered built from_fields refers)
      exact ⟨label, FormScope.mem_labels_iff.mpr (.inr (.inl ⟨built, from_fields, brought⟩)), rfl⟩
    · have save : key = scope.root.child "save" := List.mem_singleton.mp refers
      exact ⟨_, FormScope.mem_labels_iff.mpr (.inr (.inr rfl)), save ▸ rfl⟩

/-- The text stands in the document where the locale map is referred to, and is not laid over. -/
inductive Emits (form : Form) (text : String) : Prop where
  | title (emitted : form.toJson.get? "title" = some (.string text))
  | fieldTitle {field : Field} (member : field ∈ form.fields)
      (own : ¬ field.extra.contains "title")
      (emitted : field.toJson.get? "title" = some (.string text))
  | submit {field : Field} (member : field ∈ form.fields) (own : ¬ field.extra.contains "text")
      (emitted : field.toJson.get? "text" = some (.string text))
  | option {field : Field} (member : field ∈ form.fields)
      (own : ¬ field.extra.contains "options") {options : List Json}
      (emitted : field.toJson.get? "options" = some (.array options)) {item : Json}
      (among : item ∈ options) (labelled : item.get? "text" = some (.string text))
  | columnTitle {field : Field} (member : field ∈ form.fields)
      (shown : ¬ field.extra.contains "columns") {column : Column}
      (among : column ∈ field.columns.getD []) (own : ¬ column.extra.contains "title")
      (emitted : column.toJson.get? "title" = some (.string text))
  | columnValue {field : Field} (member : field ∈ form.fields)
      (shown : ¬ field.extra.contains "columns") {column : Column}
      (among : column ∈ field.columns.getD []) (own : ¬ column.extra.contains "values")
      {values : List Json} (emitted : column.toJson.get? "values" = some (.array values))
      {item : Json} (listed : item ∈ values) (labelled : item.get? "text" = some (.string text))

theorem mem_references_of_field {form : Form} {field : Field} (member : field ∈ form.fields)
    {key : LocaleKey} (refers : key ∈ field.references) : key ∈ form.references :=
  List.mem_cons_of_mem _ (List.mem_flatMap.mpr ⟨field, member, refers⟩)

theorem mem_references_of_column {form : Form} {field : Field} (member : field ∈ form.fields)
    {column : Column} (among : column ∈ field.columns.getD []) {key : LocaleKey}
    (refers : key ∈ column.references) : key ∈ form.references :=
  mem_references_of_field member
    (List.mem_append_right _ (List.mem_flatMap.mpr ⟨column, among, refers⟩))

/-- What a form emits it refers to. -/
theorem exists_reference_of_emits {form : Form} {text : String} (emits : form.Emits text) :
    ∃ key ∈ form.references, text = key.reference := by
  cases emits with
  | title emitted =>
    obtain rfl := Json.string.inj (Option.some.inj emitted)
    exact ⟨form.title, List.mem_cons_self, rfl⟩
  | fieldTitle member own emitted =>
    rw [Field.get?_toJson _ own, Field.get?_attributes] at emitted
    obtain ⟨key, title, reference⟩ := Option.map_eq_some_iff.mp emitted
    obtain rfl := Json.string.inj reference
    exact ⟨key, mem_references_of_field member (Field.mem_references_iff.mpr (.inl title)), rfl⟩
  | submit member own emitted =>
    rw [Field.get?_toJson _ own, Field.get?_attributes] at emitted
    obtain ⟨key, shown, reference⟩ := Option.map_eq_some_iff.mp emitted
    obtain rfl := Json.string.inj reference
    exact ⟨key,
      mem_references_of_field member (Field.mem_references_iff.mpr (.inr (.inl shown))), rfl⟩
  | @option field member own options emitted item among labelled =>
    rw [Field.get?_toJson _ own, Field.get?_attributes] at emitted
    obtain ⟨choices, has_options, options_eq⟩ := Option.map_eq_some_iff.mp emitted
    obtain rfl := Json.array.inj options_eq
    obtain ⟨choice, chosen, rfl⟩ := List.mem_map.mp among
    obtain rfl := Json.string.inj (Option.some.inj labelled)
    have in_options : ∃ other ∈ field.options.getD [], other.label = choice.label :=
      ⟨choice, by rw [has_options]; exact chosen, rfl⟩
    exact ⟨choice.label, mem_references_of_field member
      (Field.mem_references_iff.mpr (.inr (.inr (.inl in_options)))), rfl⟩
  | @columnTitle field member shown column among own emitted =>
    rw [Column.get?_toJson _ own, Column.get?_attributes] at emitted
    obtain rfl := Json.string.inj (Option.some.inj emitted)
    have refers : column.title ∈ column.references :=
      Column.mem_references_iff.mpr (.inl ⟨Bool.eq_false_iff.mpr own, rfl⟩)
    exact ⟨column.title, mem_references_of_column member among refers, rfl⟩
  | @columnValue field member shown column among own values emitted item listed labelled =>
    rw [Column.get?_toJson _ own, Column.get?_attributes] at emitted
    obtain ⟨choices, has_values, values_eq⟩ := Option.map_eq_some_iff.mp emitted
    obtain rfl := Json.array.inj values_eq
    obtain ⟨choice, chosen, rfl⟩ := List.mem_map.mp listed
    obtain rfl := Json.string.inj (Option.some.inj labelled)
    have refers : choice.label ∈ column.references :=
      Column.mem_references_iff.mpr
        (.inr ⟨choice, by rw [has_values]; exact chosen, rfl⟩)
    exact ⟨choice.label, mem_references_of_column member among refers, rfl⟩

end Form

/-- Every text that a generated form takes from its locale map is the reference of a registered
key. -/
theorem Generator.generateForm_registers {generator : Generator} {name : String}
    {operation : Operation} {generated : GeneratedForm}
    (done : generator.generateForm name operation = .ok (some generated)) {text : String}
    (emits : generated.form.Emits text) :
    ∃ key : LocaleKey, text = key.reference ∧ generated.locales.contains key.path := by
  obtain ⟨definition, rules, _, _, _, built⟩ := generateForm_ok_iff.mp done
  obtain ⟨properties, fields, _, made, rfl⟩ := Schema.buildForm_ok_iff.mp built
  have registered : ∀ field ∈ fields, field.value.references ⊆ field.keys := by
    intro field member
    obtain ⟨entry, _, field_built⟩ := FormScope.exists_entry_of_mem made member
    exact Field.build_references field_built
  obtain ⟨key, refers, rfl⟩ := Form.exists_reference_of_emits emits
  exact ⟨key, rfl, Form.assemble_references registered key refers⟩

/-- Orders have a status to choose, and a number whose title is laid over. -/
def orders : Generator :=
  let status : Property := { literals := some [.string "open"] }
  let number : Property := { type := some .string, description := some "Order number" }
  let order : Definition :=
    { properties := .ofEntries [("status", status), ("number", number)], required := ["status"] }
  { schema := { definitions := .ofEntries [("Order", order)] }
    rules :=
      { entries := .ofEntries
          [("Order", .object [("fields", .object
            [("number", .object [("extra", .object [("title", .string "No.")])])])])] } }

def ordersForm : GeneratedForm :=
  let root : LocaleKey := ⟨"forms.orderCreate"⟩
  let status : Field :=
    { name := "status", type := .select, title := some (root.child "status")
      required := some true
      options := some [⟨(root.child "status").child "open", .string "open"⟩] }
  let number : Field :=
    { name := "number", type := .text, title := some (root.child "number")
      required := some false, extra := .ofEntries [("title", .string "No.")] }
  { definition := "Order"
    operation := .create
    form :=
      { title := root, sections := [⟨[status, number, Field.submit (root.child "save")]⟩] }
    locales := .ofEntries
      [("forms.orderCreate", "Order"), ("forms.orderCreate.status", "status"),
       ("forms.orderCreate.status.open", "open"), ("forms.orderCreate.number", "Order number"),
       ("forms.orderCreate.save", "Save")] }

theorem generateForm_orders : orders.generateForm "Order" .create = .ok (some ordersForm) := by
  decide +kernel

theorem ordersForm_registers_open :
    ordersForm.form.Emits "[[forms.orderCreate.status.open]]" ∧
      ∃ key : LocaleKey, "[[forms.orderCreate.status.open]]" = key.reference ∧
        ordersForm.locales.contains key.path := by
  have emits : ordersForm.form.Emits "[[forms.orderCreate.status.open]]" :=
    .option List.mem_cons_self (by decide) rfl List.mem_cons_self (by decide)
  exact ⟨emits, Generator.generateForm_registers generateForm_orders emits⟩

end SchemaForms
