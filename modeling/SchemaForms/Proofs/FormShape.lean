import SchemaForms.Proofs.FormFields
/-! The fields of a generated form, in their order. Properties whose field names coincide share the
place of the first of them and show the last. -/
namespace SchemaForms

namespace Field

/-- What a field shows of the property that it is built from. -/
structure Shows (scope : FormScope) (rules : RuleSet) (entry : String × Property)
    (field : Field) : Prop where
  built : ∃ labels, build scope rules entry = .ok (some { value := field, labels })
  name : field.name = fieldName entry.1
  shown : (rules.fieldRule entry.1).skip = false
  type : ((rules.fieldRule entry.1).type <|> entry.2.fieldType?) = some field.type
  visible : field.type ≠ .hidden →
    field.title = some (scope.root.child field.name) ∧
      field.required = some (scope.definition.required.contains entry.1)
  hidden : field.type = .hidden → field.title = none ∧ field.required = none
  text : field.text = none

theorem heading_visible {scope : FormScope} {name : String} {property : Property}
    {type : FieldType} (visible : type ≠ .hidden) :
    (heading scope name property type).value =
      { name := fieldName name, type, title := some (scope.root.child (fieldName name))
        required := some (scope.definition.required.contains name) } := by
  unfold heading FieldType.isVisible
  simp [visible, Definition.isRequired]

theorem heading_hidden (scope : FormScope) (name : String) (property : Property) :
    (heading scope name property .hidden).value = { name := fieldName name, type := .hidden } := rfl

/-- Content leaves the heading as it is. -/
theorem withContent_heading {scope : FormScope} {name : String} {property : Property}
    {rule : FieldRule} {heading content : Labelled Field}
    (made : withContent scope name property rule heading = .ok content) :
    content.value.name = heading.value.name ∧ content.value.type = heading.value.type ∧
      content.value.title = heading.value.title ∧
      content.value.required = heading.value.required ∧
      content.value.text = heading.value.text := by
  rcases withContent_cases made with ⟨_, rfl⟩ | ⟨_, columns, _, rfl⟩ | ⟨_, _, rfl⟩ <;>
    exact ⟨rfl, rfl, rfl, rfl, rfl⟩

theorem shows_of_build {scope : FormScope} {rules : RuleSet} {entry : String × Property}
    {field : Labelled Field} (built : build scope rules entry = .ok (some field)) :
    Shows scope rules entry field.value := by
  obtain ⟨type, content, typed, made, rfl⟩ := exists_of_build built
  obtain ⟨name_eq, type_eq, title_eq, required_eq, text_eq⟩ := withContent_heading made
  obtain ⟨shown, type_given⟩ := RuleSet.fieldType?_eq_some_iff.mp typed
  by_cases is_hidden : type = .hidden
  · subst is_hidden
    rw [heading_hidden] at name_eq type_eq title_eq required_eq text_eq
    exact
      { built := ⟨_, built⟩
        name := name_eq
        shown
        type := type_given.trans (congrArg some type_eq.symm)
        visible := fun visible => absurd type_eq visible
        hidden := fun _ => ⟨title_eq, required_eq⟩
        text := text_eq }
  · rw [heading_visible is_hidden] at name_eq type_eq title_eq required_eq text_eq
    exact
      { built := ⟨_, built⟩
        name := name_eq
        shown
        type := type_given.trans (congrArg some type_eq.symm)
        visible := fun _ => ⟨title_eq.trans (name_eq ▸ rfl), required_eq⟩
        hidden := fun hidden => absurd (type_eq.symm.trans hidden) is_hidden
        text := text_eq }

end Field

namespace FormScope

theorem names_of_built {scope : FormScope} {rules : RuleSet} {entries : Entries Property}
    {fields : List (Labelled Field)}
    (all : List.Forall₂ (fun entry field => Field.build scope rules entry = .ok (some field))
      entries fields) :
    (fields.map fun field => field.value.name) = entries.map fun entry => fieldName entry.1 := by
  induction all with
  | nil => rfl
  | cons built _ ih =>
    rw [List.map_cons, List.map_cons, ih, (Field.shows_of_build built).name]

/-- Fields stand under their own names. -/
theorem names_eq_keys_byName (fields : List (Labelled Field)) :
    (byName fields).values.map Field.name = (byName fields).keys := by
  rw [OrderedMap.values, List.map_map]
  refine List.map_congr_left fun entry member => ?_
  obtain ⟨field, _, rfl⟩ := List.mem_map.mp (OrderedMap.mem_of_mem_entries_ofEntries member)
  rfl

theorem names_byName (fields : List (Labelled Field)) :
    (byName fields).values.map Field.name =
      (fields.map fun field => field.value.name).eraseDups := by
  rw [names_eq_keys_byName, byName, OrderedMap.keys_ofEntries, Entries.keys, List.map_map]
  rfl

theorem mem_names_byName_iff {scope : FormScope} {rules : RuleSet} {properties : Properties}
    {fields : List (Labelled Field)} (made : scope.fields rules properties = .ok fields)
    {name : String} :
    name ∈ (byName fields).values.map Field.name ↔
      ∃ entry ∈ rules.eligible properties, fieldName entry.1 = name := by
  rw [names_byName, names_of_built (fields_ok_iff.mp made), List.mem_eraseDups, List.mem_map]

/-- A field of the form shows the last of the properties that bear its name. -/
theorem last_of_mem_byName {scope : FormScope} {rules : RuleSet} {entries : Entries Property}
    {fields : List (Labelled Field)}
    (all : List.Forall₂ (fun entry field => Field.build scope rules entry = .ok (some field))
      entries fields) {field : Field} (member : field ∈ (byName fields).values) :
    ∃ before entry after, entries = before ++ entry :: after ∧
      (∀ later ∈ after, fieldName later.1 ≠ field.name) ∧ Field.Shows scope rules entry field := by
  obtain ⟨⟨name, _⟩, among, rfl⟩ := List.mem_map.mp member
  obtain ⟨before, after, pairs_eq, not_after⟩ :=
    OrderedMap.exists_last_of_get?_ofEntries (OrderedMap.mem_entries_iff.mp among)
  obtain ⟨first, rest, rfl, _, rest_eq⟩ := List.map_eq_append_iff.mp pairs_eq
  obtain ⟨last, others, rfl, pair_eq, rfl⟩ := List.map_eq_cons_iff.mp rest_eq
  cases pair_eq
  obtain ⟨earlier, entry, later, entries_eq, built, later_built⟩ := exists_related_of_forall₂ all
  refine ⟨earlier, entry, later, entries_eq, ?_, Field.shows_of_build built⟩
  intro other among_later same
  apply not_after
  have names_eq := names_of_built later_built
  rw [Entries.keys, List.map_map]
  exact names_eq ▸ List.mem_map.mpr ⟨other, among_later, same⟩

end FormScope

end SchemaForms
