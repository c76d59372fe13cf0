import SchemaForms.Proofs.FormLabels
import SchemaForms.Proofs.FormShape
/-! What the locale map says for the title of a field. All labels of a form share one space of keys,
so that a title keeps the text of its property only where nothing registered later has its key. -/
namespace SchemaForms

namespace FormScope

/-- The text that is registered over the title of the field of that name: that of the submit button,
or else of the last choice, column or column value of a later property whose label has the key. -/
def laterText? (scope : FormScope) (rules : RuleSet) (after : Entries Property) (name : String) :
    Option String :=
  if name = "save" then some "Save"
  else lastText? (scope.root.child name) (after.flatMap (Field.contentLabels scope rules))

variable {scope : FormScope} {rules : RuleSet}

/-- Titles of fields of other names do not have the key. -/
theorem lastText?_of_others {name : String} {entries : Entries Property}
    (others : ∀ entry ∈ entries, fieldName entry.1 ≠ name) :
    lastText? (scope.root.child name) (entries.flatMap (Field.labels scope rules)) =
      lastText? (scope.root.child name) (entries.flatMap (Field.contentLabels scope rules)) := by
  induction entries with
  | nil => rfl
  | cons entry rest ih =>
    rw [List.forall_mem_cons] at others
    have no_title : lastText? (scope.root.child name) (Field.titleLabels scope rules entry) =
        none := by
      apply lastText?_eq_none
      intro label member
      unfold Field.titleLabels at member
      split at member
      · rw [List.mem_singleton.mp member]
        exact mt LocaleKey.child_inj.mp others.1
      · cases member
    rw [List.flatMap_cons, List.flatMap_cons, lastText?_append, lastText?_append, ih others.2,
      Field.labels, lastText?_append, no_title, Option.or_none]

/-- A visible field labels its title, and all else below that. -/
theorem lastText?_of_own {entry : String × Property}
    (visible : (rules.fieldType? entry).any FieldType.isVisible = true) :
    lastText? (scope.root.child (fieldName entry.1)) (Field.labels scope rules entry) =
      some (Field.titleText entry) := by
  have no_content : lastText? (scope.root.child (fieldName entry.1))
      (Field.contentLabels scope rules entry) = none := by
    apply lastText?_eq_none
    intro label member
    exact (Field.contentLabels_below scope rules entry label member).ne
  rw [Field.labels, lastText?_append, no_content, Field.titleLabels, if_pos visible]
  simp [lastText?]

/-- The last property of a name gives the title its text, unless that is registered over. -/
theorem get?_title {properties : Properties} {fields : List (Labelled Field)}
    (made : scope.fields rules properties = .ok fields) {before after : Entries Property}
    {entry : String × Property} (split : rules.eligible properties = before ++ entry :: after)
    (last : ∀ later ∈ after, fieldName later.1 ≠ fieldName entry.1)
    (visible : (rules.fieldType? entry).any FieldType.isVisible = true) :
    (scope.assemble fields).2.get? (scope.root.child (fieldName entry.1)).path =
      some ((scope.laterText? rules after (fieldName entry.1)).getD (Field.titleText entry)) := by
  have in_fields : lastText? (scope.root.child (fieldName entry.1))
      (fields.flatMap Labelled.labels) =
      some ((lastText? (scope.root.child (fieldName entry.1))
        (after.flatMap (Field.contentLabels scope rules))).getD (Field.titleText entry)) := by
    rw [labels_of_fields made, split, List.flatMap_append, List.flatMap_cons, lastText?_append,
      lastText?_append, lastText?_of_others last, lastText?_of_own visible]
    cases lastText? (scope.root.child (fieldName entry.1))
      (after.flatMap (Field.contentLabels scope rules)) <;> rfl
  rw [locales_assemble, LocaleMap.get?_registerAll, labels, lastText?_append]
  simp only [lastText?, in_fields, laterText?, LocaleKey.child_inj]
  by_cases saves : fieldName entry.1 = "save"
  · simp [saves]
  · simp [saves, Ne.symm saves]

end FormScope

theorem Field.Shows.fieldType?_eq {scope : FormScope} {rules : RuleSet}
    {entry : String × Property} {field : Field} (shows : field.Shows scope rules entry) :
    rules.fieldType? entry = some field.type :=
  RuleSet.fieldType?_eq_some_iff.mpr ⟨shows.shown, shows.type⟩

/-- The title of a visible field is found in the locale map. Its text is the description of the
property, or the property's name, and not empty, exactly when that text is not empty and nothing
else is registered over it: the field is not named like the label of the submit button, nor like a
choice, column or column value of a later property. -/
theorem Generator.generateForm_titles {generator : Generator} {name : String}
    {operation : Operation} {generated : GeneratedForm}
    (done : generator.generateForm name operation = .ok (some generated)) :
    ∃ definition rules properties fields,
      generator.schema.definitions.get? name = some definition ∧
      (generator.rules.definitionRules name).resolve operation = .ok rules ∧
      generator.schema.flattenProperties name definition.properties rules = .ok properties ∧
      generated.form.sections =
        [⟨fields ++ [Field.submit ((LocaleKey.root name operation).child "save")]⟩] ∧
      ∀ field ∈ fields, field.type ≠ .hidden → ∃ before entry after,
        let scope := generator.schema.formScope name definition operation
        let title := (LocaleKey.root name operation).child field.name
        rules.eligible properties = before ++ entry :: after ∧
        (∀ later ∈ after, fieldName later.1 ≠ field.name) ∧
        field.Shows scope rules entry ∧
        field.title = some title ∧
        generated.locales.get? title.path =
          some ((scope.laterText? rules after field.name).getD (Field.titleText entry)) ∧
        (generated.locales.get? title.path = some (Field.titleText entry) ∧
            Field.titleText entry ≠ "" ↔
          Field.titleText entry ≠ "" ∧ ∀ text,
            scope.laterText? rules after field.name = some text → text = Field.titleText entry) := by
  obtain ⟨definition, rules, found, _, resolved, built⟩ := generateForm_ok_iff.mp done
  obtain ⟨properties, fields, flattened, made, rfl⟩ := Schema.buildForm_ok_iff.mp built
  refine ⟨definition, rules, properties, (FormScope.byName fields).values, found, resolved,
    flattened, rfl, ?_⟩
  intro field member visible
  obtain ⟨before, entry, after, split, last, shows⟩ :=
    FormScope.last_of_mem_byName (FormScope.fields_ok_iff.mp made) member
  have shown : (rules.fieldType? entry).any FieldType.isVisible = true := by
    rw [shows.fieldType?_eq]
    simp [FieldType.isVisible, visible]
  rw [shows.name] at last
  have text := FormScope.get?_title made split last shown
  rw [← shows.name] at last text
  refine ⟨before, entry, after, split, last, shows, (shows.visible visible).1, text, ?_⟩
  rw [and_comm]
  refine and_congr_right fun _ => ?_
  rw [show (LocaleKey.root name operation).child field.name =
    (generator.schema.formScope name definition operation).root.child field.name from rfl, text]
  cases (generator.schema.formScope name definition operation).laterText? rules after
    field.name <;> simp

/-- An open copy is named like the choice of a later property, and the copy to keep like the label
of the submit button. -/
def draftProperties : Properties := .ofEntries
  [("copy.open", { type := some .string, description := some "Open copy" }),
   ("copy", { literals := some [.string "open"] }),
   ("save", { type := some .string, description := some "Keep a copy" }),
   ("note", { type := some .string })]

def drafts : Generator :=
  { schema := { definitions := .ofEntries [("Draft", { properties := draftProperties })] }
    rules := {} }

def draftField (name : String) : Field :=
  { name, type := .text, title := some ((⟨"forms.draftCreate"⟩ : LocaleKey).child name)
    required := some false }

def draftForm : GeneratedForm :=
  let root : LocaleKey := ⟨"forms.draftCreate"⟩
  let copy : Field :=
    { draftField "copy" with
      type := .select
      options := some [⟨(root.child "copy").child "open", .string "open"⟩] }
  { definition := "Draft"
    operation := .create
    form :=
      { title := root
        sections :=
          [⟨[draftField "copy.open", copy, draftField "save", draftField "note",
            Field.submit (root.child "save")]⟩] }
    locales := .ofEntries
      [("forms.draftCreate", "Draft"), ("forms.draftCreate.copy.open", "open"),
       ("forms.draftCreate.copy", "copy"), ("forms.draftCreate.save", "Save"),
       ("forms.draftCreate.note", "note")] }

theorem generateForm_drafts : drafts.generateForm "Draft" .create = .ok (some draftForm) := by
  decide +kernel

theorem draftForm_titles :
    drafts.generateForm "Draft" .create = .ok (some draftForm) ∧
      (∃ fields, draftForm.form.sections =
          [⟨fields ++ [Field.submit ((LocaleKey.root "Draft" .create).child "save")]⟩] ∧
        ∀ field ∈ fields, field.type ≠ .hidden → ∃ text,
          draftForm.locales.get? ((LocaleKey.root "Draft" .create).child field.name).path =
            some text) ∧
      draftForm.locales.get? "forms.draftCreate.copy.open" = some "open" ∧
      draftForm.locales.get? "forms.draftCreate.note" = some "note" := by
  obtain ⟨_, _, _, fields, _, _, _, sections, titles⟩ :=
    Generator.generateForm_titles generateForm_drafts
  refine ⟨generateForm_drafts, ⟨fields, sections, ?_⟩, by decide, by decide⟩
  intro field member visible
  obtain ⟨_, _, _, _, _, _, _, text, _⟩ := titles field member visible
  exact ⟨_, text⟩

/-- The title of the copy to keep shows the label of the submit button. -/
theorem draftForm_loses_title :
    drafts.generateForm "Draft" .create = .ok (some draftForm) ∧
      (draftProperties.get? "save").bind Property.description = some "Keep a copy" ∧
      draftField "save" ∈ draftForm.form.fields ∧
      (draftField "save").title = some ⟨"forms.draftCreate.save"⟩ ∧
      draftForm.locales.get? "forms.draftCreate.save" = some "Save" := by
  refine ⟨generateForm_drafts, ?_, ?_, ?_, ?_⟩ <;> decide

end SchemaForms
