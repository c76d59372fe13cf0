import SchemaForms.Proofs.LabelReferences
/-! The labels of a form in the order of their registration, read off the properties that it shows.
All keys are names below the root of the form, and the text of a key is that of its last label. -/
namespace SchemaForms

namespace LocaleKey

theorem child_inj {key : LocaleKey} {first second : String} :
    key.child first = key.child second ↔ first = second := by
  simp [child]

theorem child_child (key : LocaleKey) (first second : String) :
    (key.child first).child second = key.child (first ++ "." ++ second) := by
  simp [child, String.append_assoc]

/-- The key names something below the other. -/
def Below (key above : LocaleKey) : Prop := ∃ name, key = above.child name

theorem Below.child {key above : LocaleKey} (below : key.Below above) (name : String) :
    (key.child name).Below above := by
  obtain ⟨first, rfl⟩ := below
  exact ⟨first ++ "." ++ name, child_child above first name⟩

theorem Below.ne {key above : LocaleKey} (below : key.Below above) : key ≠ above := by
  obtain ⟨name, rfl⟩ := below
  intro same
  have lengths := congrArg (fun other : LocaleKey => other.path.length) same
  simp only [LocaleKey.child, String.length_append] at lengths
  have dot : ".".length = 1 := rfl
  omega

end LocaleKey

/-- The text of the last of the labels under the key. -/
def lastText? (key : LocaleKey) : List Label → Option String
  | [] => none
  | label :: rest => (lastText? key rest).or (if label.key = key then some label.text else none)

theorem lastText?_append (key : LocaleKey) (first second : List Label) :
    lastText? key (first ++ second) = (lastText? key second).or (lastText? key first) := by
  induction first with
  | nil => exact Option.or_none.symm
  | cons label rest ih => rw [List.cons_append, lastText?, ih, lastText?, Option.or_assoc]

theorem lastText?_eq_none {key : LocaleKey} {labels : List Label}
    (others : ∀ label ∈ labels, label.key ≠ key) : lastText? key labels = none := by
  induction labels with
  | nil => rfl
  | cons label rest ih =>
    rw [List.forall_mem_cons] at others
    rw [lastText?, ih others.2, if_neg others.1]
    rfl

theorem LocaleMap.get?_registerAll (map : LocaleMap) (labels : List Label) (key : LocaleKey) :
    (registerAll map labels).get? key.path =
      (lastText? key labels).or (map.get? key.path) := by
  induction labels generalizing map with
  | nil => rfl
  | cons label rest ih =>
    have step : registerAll map (label :: rest) = registerAll (map.register label) rest := rfl
    have same_key : label.key.path = key.path ↔ label.key = key := by
      constructor
      · exact fun same => congrArg LocaleKey.mk same
      · exact congrArg LocaleKey.path
    rw [step, ih, register, OrderedMap.insert, OrderedMap.get?_upsert, lastText?, Option.or_assoc]
    by_cases same : label.key = key
    · rw [if_pos same, if_pos (same_key.mpr same)]
      rfl
    · rw [if_neg same, if_neg (mt same_key.mp same)]
      rfl

namespace Column

theorem ofProperty?_labels_below {tableKey : LocaleKey} {rules : OrderedMap ColumnRule}
    {entry : String × Property} {column : Labelled Column}
    (made : ofProperty? tableKey rules entry = some column) :
    ∀ label ∈ column.labels, label.key.Below tableKey := by
  obtain ⟨literals?, _, _, _, labels⟩ := exists_of_ofProperty? made
  have title_below : (tableKey.child entry.1).Below tableKey := ⟨entry.1, rfl⟩
  intro label member
  rw [labels] at member
  rcases List.mem_cons.mp member with rfl | in_values
  · exact title_below
  · obtain ⟨literal, _, rfl⟩ := List.mem_map.mp in_values
    exact title_below.child _

/-- Whatever a table labels, it labels below its own key. -/
theorem build_labels_below (tableKey : LocaleKey) (rule : FieldRule) (referenced : Properties) :
    ∀ label ∈ (build tableKey rule referenced).labels, label.key.Below tableKey := by
  intro label member
  obtain ⟨column, declares, brought⟩ := List.mem_flatMap.mp member
  rcases mem_declared_iff.mp declares with ⟨_, _, made⟩ | ⟨⟨name, attributes⟩, _, rfl⟩
  · exact ofProperty?_labels_below made label brought
  · cases brings : attributes.contains "title" with
    | true => simp [ofAttributes, brings] at brought
    | false =>
      simp only [ofAttributes, brings, Bool.false_eq_true, if_false] at brought
      exact ⟨name, congrArg Label.key (List.mem_singleton.mp brought)⟩

end Column

namespace Field

/-- The text that a property gives to the title of its field. -/
def titleText (entry : String × Property) : String := entry.2.description.getD entry.1

/-- The label of the title. Hidden fields have none. -/
def titleLabels (scope : FormScope) (rules : RuleSet) (entry : String × Property) : List Label :=
  if (rules.fieldType? entry).any FieldType.isVisible then
    [⟨scope.root.child (fieldName entry.1), titleText entry⟩]
  else []

/-- The labels of the options of a choice, or of the columns of a table and their values. -/
def contentLabels (scope : FormScope) (rules : RuleSet) (entry : String × Property) : List Label :=
  let key := scope.root.child (fieldName entry.1)
  match rules.fieldType? entry with
  | some .select => (entry.2.literals.getD []).map (literalLabel key)
  | some .table =>
    ((entry.2.itemsReference.bind scope.schema.resolve?).map fun referenced =>
      (Column.build key ((rules.field? entry.1).getD {}) referenced).labels).getD []
  | _ => []

theorem heading_labels (scope : FormScope) (name : String) (property : Property)
    (type : FieldType) :
    (heading scope name property type).labels =
      if type.isVisible then [⟨scope.root.child (fieldName name), property.description.getD name⟩]
      else [] := by
  unfold heading
  cases type.isVisible <;> rfl

theorem heading_name (scope : FormScope) (name : String) (property : Property)
    (type : FieldType) : (heading scope name property type).value.name = fieldName name := by
  unfold heading
  cases type.isVisible <;> rfl

theorem labels_of_build {scope : FormScope} {rules : RuleSet} {entry : String × Property}
    {field : Labelled Field} (built : build scope rules entry = .ok (some field)) :
    field.labels = titleLabels scope rules entry ++ contentLabels scope rules entry := by
  obtain ⟨type, content, typed, made, rfl⟩ := exists_of_build built
  have title_eq : titleLabels scope rules entry = (heading scope entry.1 entry.2 type).labels := by
    rw [titleLabels, typed, heading_labels]
    rfl
  rw [title_eq]
  unfold contentLabels
  rcases withContent_cases made with ⟨is_select, rfl⟩ | ⟨is_table, columns, columns_made, rfl⟩ |
    ⟨not_select, not_table, rfl⟩
  · rw [heading_type] at is_select
    simp only [typed, is_select, heading_name]
  · rw [heading_type] at is_table
    simp only [typed, is_table]
    rcases columnsOf_cases columns_made with ⟨no_reference, rfl⟩ |
      ⟨reference, referenced, refers, resolved, rfl⟩
    · simp [no_reference]
    · simp [refers, resolved]
  · rw [heading_type] at not_select not_table
    rw [typed]
    split
    · next same => exact absurd (Option.some.inj same) not_select
    · next same => exact absurd (Option.some.inj same) not_table
    · rw [List.append_nil]

theorem contentLabels_below (scope : FormScope) (rules : RuleSet) (entry : String × Property) :
    ∀ label ∈ contentLabels scope rules entry,
      label.key.Below (scope.root.child (fieldName entry.1)) := by
  intro label member
  unfold contentLabels at member
  split at member
  · obtain ⟨literal, _, rfl⟩ := List.mem_map.mp member
    exact ⟨literalText literal, rfl⟩
  · cases resolved : entry.2.itemsReference.bind scope.schema.resolve? with
    | none => simp [resolved] at member
    | some referenced =>
      rw [resolved] at member
      exact Column.build_labels_below _ _ _ label member
  · cases member

/-- All labels of a property in the order of their registration. -/
def labels (scope : FormScope) (rules : RuleSet) (entry : String × Property) : List Label :=
  titleLabels scope rules entry ++ contentLabels scope rules entry

theorem labels_below (scope : FormScope) (rules : RuleSet) (entry : String × Property) :
    ∀ label ∈ labels scope rules entry, label.key.Below scope.root := by
  intro label member
  rcases List.mem_append.mp member with in_title | in_content
  · unfold titleLabels at in_title
    split at in_title
    · exact ⟨fieldName entry.1, congrArg Label.key (List.mem_singleton.mp in_title)⟩
    · cases in_title
  · obtain ⟨name, key_eq⟩ := contentLabels_below scope rules entry label in_content
    rw [key_eq, LocaleKey.child_child]
    exact ⟨_, rfl⟩

end Field

/-- Labels follow the properties of the form, whichever fields remain. -/
theorem FormScope.labels_of_fields {scope : FormScope} {rules : RuleSet} {properties : Properties}
    {fields : List (Labelled Field)} (made : scope.fields rules properties = .ok fields) :
    fields.flatMap Labelled.labels =
      (rules.eligible properties).flatMap (Field.labels scope rules) := by
  rw [fields_ok_iff] at made
  generalize rules.eligible properties = entries at made ⊢
  induction made with
  | nil => rfl
  | cons built _ ih =>
    rw [List.flatMap_cons, List.flatMap_cons, ih, Field.labels_of_build built, Field.labels]

/-- A label under whose key nothing else is registered stays in front. -/
theorem LocaleMap.exists_registerAll_cons {first : Label} {others : List Label}
    (differ : ∀ label ∈ others, label.key ≠ first.key) :
    ∃ rest, (registerAll {} (first :: others)).entries = (first.key.path, first.text) :: rest := by
  have new : first.key.path ∉
      Entries.keys (others.map fun label => (label.key.path, label.text)) := by
    rw [Entries.keys, List.map_map]
    intro registered
    obtain ⟨label, member, path_eq⟩ := List.mem_map.mp registered
    exact differ label member (congrArg LocaleKey.mk path_eq)
  rw [registerAll_eq, List.map_cons]
  exact ⟨Entries.insertAll [] _, Entries.insertAll_cons_of_not_mem new⟩

/-- What is registered after the name of the definition is below the root. -/
theorem FormScope.below_of_registered {scope : FormScope} {rules : RuleSet}
    {properties : Properties} {fields : List (Labelled Field)}
    (made : scope.fields rules properties = .ok fields) :
    ∀ label ∈ fields.flatMap Labelled.labels ++ [⟨scope.root.child "save", "Save"⟩],
      label.key.Below scope.root := by
  intro label member
  rcases List.mem_append.mp member with in_fields | saves
  · rw [labels_of_fields made] at in_fields
    obtain ⟨entry, _, brought⟩ := List.mem_flatMap.mp in_fields
    exact Field.labels_below scope rules entry label brought
  · exact ⟨"save", congrArg Label.key (List.mem_singleton.mp saves)⟩

/-- The name of the definition is registered first, and nothing is registered over it. -/
theorem FormScope.exists_locales_cons {scope : FormScope} {rules : RuleSet}
    {properties : Properties} {fields : List (Labelled Field)}
    (made : scope.fields rules properties = .ok fields) :
    ∃ rest, (scope.assemble fields).2.entries = (scope.root.path, scope.name) :: rest := by
  rw [locales_assemble, labels, List.cons_append]
  exact LocaleMap.exists_registerAll_cons fun label member =>
    (below_of_registered made label member).ne

end SchemaForms
