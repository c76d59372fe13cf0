import SchemaForms.Proofs.FormShape
/-! Names of the fields of a form. Properties whose field names coincide share one field, but the
submit button is added after these fields whatever they are called. -/
namespace SchemaForms

/-- Under distinct names every item is the first of its name. -/
theorem find?_name_of_nodup {α : Type} {name : α → String} {items : List α}
    (nodup : (items.map name).Nodup) {item : α} (member : item ∈ items) :
    items.find? (fun other => name other = name item) = some item := by
  obtain ⟨before, after, rfl⟩ := List.append_of_mem member
  rw [List.find?_eq_some_iff_append]
  refine ⟨by simp, before, after, rfl, ?_⟩
  intro earlier among
  rw [List.map_append, List.map_cons] at nodup
  have differs : name earlier ≠ name item :=
    (List.nodup_append.mp nodup).2.2 _ (List.mem_map_of_mem among) _ List.mem_cons_self
  simp [differs]

/-- Whatever stands behind an item of distinct name is not found before it. -/
theorem find?_append_singleton_iff {α : Type} {name : α → String} {items : List α} {last : α}
    (new : last ∉ items) :
    (items ++ [last]).find? (fun other => name other = name last) = some last ↔
      name last ∉ items.map name := by
  rw [List.find?_append]
  cases found : items.find? (fun other => name other = name last) with
  | none =>
    have none_named := List.find?_eq_none.mp found
    simp only [decide_eq_true_eq] at none_named
    simpa using none_named
  | some other =>
    have named := List.find?_some found
    have among := List.mem_of_find?_eq_some found
    rw [decide_eq_true_eq] at named
    have differs : other ≠ last := fun same => new (same ▸ among)
    simpa [differs] using ⟨other, among, named⟩

namespace FormScope

theorem nodup_names_byName (fields : List (Labelled Field)) :
    ((byName fields).values.map Field.name).Nodup := by
  rw [names_eq_keys_byName]
  exact (byName fields).nodup

/-- The field of a property has no text of its own, which the submit button has. -/
theorem submit_not_mem_byName {scope : FormScope} {rules : RuleSet} {properties : Properties}
    {fields : List (Labelled Field)} (made : scope.fields rules properties = .ok fields)
    (save : LocaleKey) : Field.submit save ∉ (byName fields).values := by
  intro member
  obtain ⟨_, _, _, _, _, shows⟩ := last_of_mem_byName (fields_ok_iff.mp made) member
  cases shows.text

end FormScope

/-- The fields of properties have distinct names, and each is found under its name. The submit
button has a name of its own, and is found under it, exactly when no eligible property has the field
name of the button. -/
theorem Generator.generateForm_names {generator : Generator} {name : String}
    {operation : Operation} {generated : GeneratedForm}
    (done : generator.generateForm name operation = .ok (some generated)) :
    ∃ definition rules properties fields,
      let save := Field.submit ((LocaleKey.root name operation).child "save")
      generator.schema.definitions.get? name = some definition ∧
      (generator.rules.definitionRules name).resolve operation = .ok rules ∧
      generator.schema.flattenProperties name definition.properties rules = .ok properties ∧
      generated.form.fields = fields ++ [save] ∧
      (fields.map Field.name).Nodup ∧
      (∀ field ∈ fields, generated.form.field? field.name = some field) ∧
      ((generated.form.fields.map Field.name).Nodup ↔
        ∀ entry ∈ rules.eligible properties, fieldName entry.1 ≠ "submit") ∧
      (generated.form.field? "submit" = some save ↔
        ∀ entry ∈ rules.eligible properties, fieldName entry.1 ≠ "submit") := by
  obtain ⟨definition, rules, found, _, resolved, built⟩ := generateForm_ok_iff.mp done
  obtain ⟨properties, fields, flattened, made, rfl⟩ := Schema.buildForm_ok_iff.mp built
  have fields_eq := FormScope.fields_assemble
    (generator.schema.formScope name definition operation) fields
  have nodup := FormScope.nodup_names_byName fields
  have unnamed_iff : "submit" ∉ (FormScope.byName fields).values.map Field.name ↔
      ∀ entry ∈ rules.eligible properties, fieldName entry.1 ≠ "submit" := by
    rw [FormScope.mem_names_byName_iff made]
    simp only [not_exists, not_and, ne_eq]
  refine ⟨definition, rules, properties, (FormScope.byName fields).values, found, resolved,
    flattened, fields_eq, nodup, ?_, ?_, ?_⟩
  · intro field member
    rw [Form.field?, fields_eq, List.find?_append, find?_name_of_nodup nodup member]
    rfl
  · rw [fields_eq, List.map_append, List.nodup_append_comm, ← unnamed_iff]
    exact List.nodup_cons.trans (and_iff_left nodup)
  · rw [Form.field?, fields_eq, ← unnamed_iff]
    exact find?_append_singleton_iff (FormScope.submit_not_mem_byName made _)

/-- A request is submitted by a person, and its form by a button. -/
def requests : Generator :=
  let request : Properties := .ofEntries
    [("submit", { type := some .string }), ("note", { type := some .string })]
  { schema := { definitions := .ofEntries [("Request", { properties := request })] }
    rules := {} }

def requestField (name : String) : Field :=
  { name, type := .text, title := some ((⟨"forms.requestCreate"⟩ : LocaleKey).child name)
    required := some false }

def requestForm : GeneratedForm :=
  let root : LocaleKey := ⟨"forms.requestCreate"⟩
  { definition := "Request"
    operation := .create
    form :=
      { title := root
        sections :=
          [⟨[requestField "submit", requestField "note", Field.submit (root.child "save")]⟩] }
    locales := .ofEntries
      [("forms.requestCreate", "Request"), ("forms.requestCreate.submit", "submit"),
       ("forms.requestCreate.note", "note"), ("forms.requestCreate.save", "Save")] }

theorem generateForm_requests :
    requests.generateForm "Request" .create = .ok (some requestForm) := by
  decide +kernel

theorem requestForm_names :
    requests.generateForm "Request" .create = .ok (some requestForm) ∧
      ∃ fields, requestForm.form.fields =
          fields ++ [Field.submit ((LocaleKey.root "Request" .create).child "save")] ∧
        (fields.map Field.name).Nodup ∧
        ∀ field ∈ fields, requestForm.form.field? field.name = some field := by
  obtain ⟨_, _, _, fields, _, _, _, fields_eq, nodup, found, _⟩ :=
    Generator.generateForm_names generateForm_requests
  exact ⟨generateForm_requests, fields, fields_eq, nodup, found⟩

/-- Two fields of the form are named alike, and the button is not found under its name. -/
theorem requestForm_repeats_submit :
    requests.generateForm "Request" .create = .ok (some requestForm) ∧
      requestForm.form.fields.map Field.name = ["submit", "note", "submit"] ∧
      ¬ (requestForm.form.fields.map Field.name).Nodup ∧
      requestForm.form.field? "submit" = some (requestField "submit") := by
  refine ⟨generateForm_requests, ?_, ?_, ?_⟩ <;> decide

end SchemaForms
