import SchemaForms.Proofs.FieldTitles
import SchemaForms.Proofs.FormDocuments
/-! The locale map of a form as a whole: the name of the definition under the root key, then texts
below it, and the text of the submit button under a key that nothing is registered over. -/
namespace SchemaForms

namespace FormScope
variable {scope : FormScope} {rules : RuleSet} {properties : Properties}
  {fields : List (Labelled Field)}

/-- No other text comes to stand under the root key or beside it. -/
theorem exists_locales_cons_below (made : scope.fields rules properties = .ok fields) :
    ∃ rest, (scope.assemble fields).2.entries = (scope.root.path, scope.name) :: rest ∧
      ∀ path ∈ Entries.keys rest, ∃ key : LocaleKey, key.Below scope.root ∧ key.path = path := by
  obtain ⟨rest, entries_eq⟩ := exists_locales_cons made
  refine ⟨rest, entries_eq, fun path later => ?_⟩
  have nodup := (scope.assemble fields).2.nodup
  rw [entries_eq, Entries.keys_cons, List.nodup_cons] at nodup
  have registered : path ∈ (scope.assemble fields).2.keys := by
    rw [OrderedMap.keys, entries_eq]
    exact List.mem_cons_of_mem _ later
  rw [locales_assemble, LocaleMap.mem_keys_registerAll, labels, List.cons_append] at registered
  rcases registered with nothing | ⟨label, member, rfl⟩
  · cases nothing
  · rcases List.mem_cons.mp member with rfl | brought
    · exact absurd later nodup.1
    · exact ⟨label.key, below_of_registered made label brought, rfl⟩

/-- The label of the submit button is registered last. -/
theorem get?_save (scope : FormScope) (fields : List (Labelled Field)) :
    (scope.assemble fields).2.get? (scope.root.child "save").path = some "Save" := by
  rw [locales_assemble, LocaleMap.get?_registerAll, labels, lastText?_append]
  simp [lastText?]

end FormScope

/-- The locale map of a form starts with the name of the definition, under the root key. All other
keys are below the root, and under the one that the submit button refers to is its text, whatever
else the properties of the definition register. -/
theorem Generator.generateForm_locale_structure {generator : Generator} {name : String}
    {operation : Operation} {generated : GeneratedForm}
    (done : generator.generateForm name operation = .ok (some generated)) :
    let root := "forms." ++ Text.camelCase name ++ operation.capitalized
    (∃ rest, generated.locales.entries = (root, name) :: rest ∧
      ∀ key ∈ Entries.keys rest, ∃ segment, key = root ++ "." ++ segment) ∧
    generated.locales.keys.Nodup ∧
    generated.locales.get? (root ++ ".save") = some "Save" ∧
    ∃ fields last, generated.form.sections = [⟨fields ++ [last]⟩] ∧
      last.toJson.get? "text" = some (.string ("[[" ++ (root ++ ".save") ++ "]]")) := by
  intro root
  obtain ⟨definition, rules, _, _, _, built⟩ := generateForm_ok_iff.mp done
  obtain ⟨properties, fields, _, made, rfl⟩ := Schema.buildForm_ok_iff.mp built
  obtain ⟨rest, entries_eq, below⟩ := FormScope.exists_locales_cons_below made
  have save_eq : ((LocaleKey.root name operation).child "save").path = root ++ ".save" :=
    String.append_assoc
  refine ⟨⟨rest, entries_eq, fun key later => ?_⟩, OrderedMap.nodup _, ?_,
    (FormScope.byName fields).values, Field.submit ((LocaleKey.root name operation).child "save"),
    rfl, ?_⟩
  · obtain ⟨_, ⟨segment, rfl⟩, rfl⟩ := below key later
    exact ⟨segment, rfl⟩
  · rw [← save_eq]
    exact FormScope.get?_save _ fields
  · rw [← save_eq]
    exact Field.get?_toJson _ Bool.false_ne_true

/-- The draft has a property for a copy to keep, of which the key is that of the button. -/
theorem draftForm_locale_structure :
    drafts.generateForm "Draft" .create = .ok (some draftForm) ∧
      (∃ rest, draftForm.locales.entries = ("forms.draftCreate", "Draft") :: rest ∧
        ∀ key ∈ Entries.keys rest, ∃ segment, key = "forms.draftCreate" ++ "." ++ segment) ∧
      draftForm.locales.get? "forms.draftCreate.save" = some "Save" := by
  have root_eq : "forms." ++ Text.camelCase "Draft" ++ Operation.create.capitalized =
      "forms.draftCreate" := by
    decide +kernel
  obtain ⟨entries, _, save, _⟩ := Generator.generateForm_locale_structure generateForm_drafts
  rw [root_eq] at entries save
  exact ⟨generateForm_drafts, entries, save⟩

end SchemaForms
