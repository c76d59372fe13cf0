import Mathlib.Data.List.TakeWhile
import SchemaForms.Proofs.FormFields
/-! When a form fails, and with which error. A form fails in three stages, each of which reports the
first failure of its own: its rules cannot be read, a property that is to be flattened has a
dangling reference, or a table has one. Nothing else fails. -/
namespace SchemaForms

/-- The part of a text after its last slash, or the whole of a text without one. -/
def LastSegment (text segment : String) : Prop :=
  '/' ∉ segment.toList ∧ (text = segment ∨ ∃ before, text = before ++ "/" ++ segment)

theorem lastSegment_iff {text segment : String} :
    LastSegment text segment ↔
      segment.toList = (text.toList.reverse.takeWhile (· ≠ '/')).reverse := by
  constructor
  · rintro ⟨no_slash, split⟩
    have all_pass : ∀ c ∈ segment.toList.reverse, decide (c ≠ '/') = true := by
      intro c member
      rw [decide_eq_true_iff]
      rintro rfl
      exact no_slash (List.mem_reverse.mp member)
    rcases split with rfl | ⟨before, rfl⟩
    · rw [List.takeWhile_eq_self_iff.mpr all_pass, List.reverse_reverse]
    · have reversed : (before ++ "/" ++ segment).toList.reverse =
          segment.toList.reverse ++ '/' :: before.toList.reverse := by
        simp
      rw [reversed, List.takeWhile_append_of_pos all_pass]
      simp
  · intro segment_eq
    have parts := List.takeWhile_append_dropWhile (p := (· ≠ '/')) (l := text.toList.reverse)
    refine ⟨?_, ?_⟩
    · rw [segment_eq, List.mem_reverse]
      intro member
      have passes := List.mem_takeWhile_imp member
      simp at passes
    · cases left : text.toList.reverse.dropWhile (· ≠ '/') with
      | nil =>
        rw [left, List.append_nil] at parts
        rw [parts, List.reverse_reverse] at segment_eq
        exact .inl (String.toList_inj.mp segment_eq.symm)
      | cons c before =>
        have is_slash : c = '/' := by
          have stops := List.head?_dropWhile_not (· ≠ '/') text.toList.reverse
          rw [left] at stops
          simpa using stops
        subst is_slash
        refine .inr ⟨String.ofList before.reverse, String.toList_inj.mp ?_⟩
        have text_eq := congrArg List.reverse parts
        rw [List.reverse_reverse, left, List.reverse_append, ← segment_eq] at text_eq
        rw [← text_eq]
        simp

namespace Schema

/-- The reference names no definition of the schema. -/
def Dangling (schema : Schema) (reference : String) : Prop :=
  ∃ segment, LastSegment reference segment ∧
    (segment = "" ∨ segment ∉ schema.definitions.keys)

theorem resolve?_eq_none_iff {schema : Schema} {reference : String} :
    schema.resolve? reference = none ↔ schema.Dangling reference := by
  have last : LastSegment reference
      (String.ofList (reference.toList.reverse.takeWhile (· ≠ '/')).reverse) :=
    lastSegment_iff.mpr (String.toList_ofList)
  have unique {segment : String} (other : LastSegment reference segment) :
      segment = String.ofList (reference.toList.reverse.takeWhile (· ≠ '/')).reverse :=
    String.toList_inj.mp ((lastSegment_iff.mp other).trans String.toList_ofList.symm)
  have dangling_iff : schema.Dangling reference ↔
      String.ofList (reference.toList.reverse.takeWhile (· ≠ '/')).reverse = "" ∨
        String.ofList (reference.toList.reverse.takeWhile (· ≠ '/')).reverse ∉
          schema.definitions.keys := by
    constructor
    · rintro ⟨segment, other, unknown⟩
      exact unique other ▸ unknown
    · exact fun unknown => ⟨_, last, unknown⟩
  rw [dangling_iff, resolve?, referenceName?, Option.map_eq_none_iff]
  cases (reference.toList.reverse.takeWhile (· ≠ '/')).reverse with
  | nil => simp
  | cons c rest =>
    have nonempty : String.ofList (c :: rest) ≠ "" := by
      intro empty
      have lists := congrArg String.toList empty
      simp at lists
    simp only [Option.bind_some, nonempty, false_or]
    exact OrderedMap.get?_eq_none_iff

theorem follow_error_iff {schema : Schema} {definition property reference : String}
    {failure : FormError} :
    schema.follow definition property reference = .error failure ↔
      schema.Dangling reference ∧ failure = .unresolvedReference definition property reference := by
  rw [← resolve?_eq_none_iff, follow]
  cases schema.resolve? reference <;> simp [eq_comm]

/-- The rules flatten the property, whose reference is dangling. -/
def FlattenFails (schema : Schema) (definition : String) (rules : RuleSet)
    (entry : String × Property) (failure : FormError) : Prop :=
  ∃ rule reference, rules.field? entry.1 = some rule ∧ rule.flatten = true ∧
    entry.2.reference = some reference ∧ schema.Dangling reference ∧
    failure = .unresolvedReference definition entry.1 reference

/-- The property is shown as a table, whose reference is dangling. -/
def TableFails (schema : Schema) (definition : String) (rules : RuleSet)
    (entry : String × Property) (failure : FormError) : Prop :=
  ∃ reference, rules.fieldType? entry = some .table ∧ entry.2.itemsReference = some reference ∧
    schema.Dangling reference ∧ failure = .unresolvedReference definition entry.1 reference

theorem flattenProperty_error_iff {schema : Schema} {definition : String} {rules : RuleSet}
    {properties : Properties} {entry : String × Property} {failure : FormError} :
    schema.flattenProperty definition rules properties entry = .error failure ↔
      schema.FlattenFails definition rules entry failure := by
  unfold flattenProperty FlattenFails
  cases has_rule : rules.field? entry.1 with
  | none => simp
  | some rule =>
    cases flattens : rule.flatten with
    | false => simp [Option.filter_some, flattens]
    | true =>
      rw [Option.filter_some, if_pos flattens]
      cases entry.2.reference with
      | none => simp
      | some reference => simp [flattens, inlineReference, map_error_iff, follow_error_iff]

theorem flattenProperties_error_iff {schema : Schema} {definition : String}
    {properties : Properties} {rules : RuleSet} {failure : FormError} :
    schema.flattenProperties definition properties rules = .error failure ↔
      FirstFailure (schema.FlattenFails definition rules) properties.entries failure := by
  have step_error : ∀ current entry failure,
      schema.flattenProperty definition rules current entry = .error failure ↔
        schema.FlattenFails definition rules entry failure :=
    fun _ _ _ => flattenProperty_error_iff
  exact foldlM_error_iff step_error

end Schema

namespace Field

theorem columnsOf_error_iff {scope : FormScope} {name : String} {property : Property}
    {rule : FieldRule} {failure : FormError} :
    columnsOf scope name property rule = .error failure ↔
      ∃ reference, property.itemsReference = some reference ∧ scope.schema.Dangling reference ∧
        failure = .unresolvedReference scope.name name reference := by
  unfold columnsOf
  cases property.itemsReference <;> simp [map_error_iff, Schema.follow_error_iff]

/-- Only a table can fail to be built. -/
theorem withContent_error_iff {scope : FormScope} {name : String} {property : Property}
    {rule : FieldRule} {heading : Labelled Field} {failure : FormError} :
    withContent scope name property rule heading = .error failure ↔
      heading.value.type = .table ∧ columnsOf scope name property rule = .error failure := by
  unfold withContent
  split
  · next is_select => simp [is_select]
  · next is_table => simp [is_table, map_error_iff]
  · next not_table => exact iff_of_false nofun fun fails => not_table fails.1

theorem build_error_iff {scope : FormScope} {rules : RuleSet} {entry : String × Property}
    {failure : FormError} :
    build scope rules entry = .error failure ↔
      scope.schema.TableFails scope.name rules entry failure := by
  unfold Schema.TableFails
  cases typed : rules.fieldType? entry with
  | none => simp [build_of_untyped typed]
  | some type =>
    rw [build_of_typed typed, map_error_iff, withContent_error_iff, heading_type,
      columnsOf_error_iff]
    simp

end Field

theorem FormScope.fields_error_iff {scope : FormScope} {rules : RuleSet}
    {properties : Properties} {failure : FormError} :
    scope.fields rules properties = .error failure ↔
      FirstFailure (scope.schema.TableFails scope.name rules) properties.entries failure := by
  have build_fails : (fun entry failure => Field.build scope rules entry = .error failure) =
      scope.schema.TableFails scope.name rules := by
    funext entry failure
    exact propext Field.build_error_iff
  rw [FormScope.fields, map_error_iff, mapM_error_iff, build_fails]

theorem Schema.buildForm_error_iff {schema : Schema} {name : String} {definition : Definition}
    {operation : Operation} {rules : RuleSet} {failure : FormError} :
    schema.buildForm name definition operation rules = .error failure ↔
      FirstFailure (schema.FlattenFails name rules) definition.properties.entries failure ∨
      ∃ flattened, schema.flattenProperties name definition.properties rules = .ok flattened ∧
        FirstFailure (schema.TableFails name rules) flattened.entries failure := by
  have fields_fail (properties : Properties) :
      (schema.formScope name definition operation).fields rules properties = .error failure ↔
        FirstFailure (schema.TableFails name rules) properties.entries failure :=
    FormScope.fields_error_iff
  simp only [← flattenProperties_error_iff, ← fields_fail]
  unfold buildForm formScope
  cases schema.flattenProperties name definition.properties rules with
  | error other => simp [bind, Except.bind]
  | ok properties =>
    simp only [bind, Except.bind, reduceCtorEq, false_or, Except.ok.injEq, exists_eq_left']
    cases FormScope.fields { schema, name, definition, root := .root name operation } rules
      properties <;> simp [pure, Except.pure]

theorem DefinitionRules.exists_of_resolve_error {rules : DefinitionRules} {operation : Operation}
    {failure : FormError} (rejected : rules.resolve operation = .error failure) :
    ∃ field cause, failure = .invalidRules rules.definition operation field cause := by
  unfold resolve at rejected
  cases read : RuleSet.ofMerged (rules.merged operation) with
  | ok rules' => rw [read] at rejected; cases rejected
  | error fault =>
    rw [read] at rejected
    cases rejected
    exact ⟨fault.1, fault.2, rfl⟩

namespace Generator

/-- The ways in which the form of a definition and an operation fails. -/
inductive Fails (generator : Generator) (name : String) (definition : Definition)
    (operation : Operation) : FormError → Prop where
  | rules {field : String} {cause : DecodeError}
      (rejected : (generator.rules.definitionRules name).resolve operation =
        .error (.invalidRules name operation field cause)) :
      Fails generator name definition operation (.invalidRules name operation field cause)
  | flatten {rules : RuleSet} {failure : FormError}
      (resolved : (generator.rules.definitionRules name).resolve operation = .ok rules)
      (first : FirstFailure (generator.schema.FlattenFails name rules)
        definition.properties.entries failure) :
      Fails generator name definition operation failure
  | table {rules : RuleSet} {flattened : Properties} {failure : FormError}
      (resolved : (generator.rules.definitionRules name).resolve operation = .ok rules)
      (passed : generator.schema.flattenProperties name definition.properties rules =
        .ok flattened)
      (first : FirstFailure (generator.schema.TableFails name rules) flattened.entries failure) :
      Fails generator name definition operation failure

theorem build_error_iff {generator : Generator} {name : String} {definition : Definition}
    {operation : Operation} {failure : FormError} :
    generator.build name definition (generator.rules.definitionRules name) operation =
        .error failure ↔
      generator.Fails name definition operation failure := by
  unfold build
  cases resolved : (generator.rules.definitionRules name).resolve operation with
  | error other =>
    constructor
    · intro failed
      obtain ⟨field, cause, rfl⟩ := DefinitionRules.exists_of_resolve_error resolved
      cases failed
      exact .rules resolved
    · rintro (rejected | ⟨resolved', _⟩ | ⟨resolved', _, _⟩)
      · exact congrArg Except.error (Except.error.inj (resolved.symm.trans rejected))
      · rw [resolved] at resolved'
        cases resolved'
      · rw [resolved] at resolved'
        cases resolved'
  | ok rules =>
    refine Schema.buildForm_error_iff.trans ⟨?_, ?_⟩
    · rintro (first | ⟨flattened, passed, first⟩)
      · exact .flatten resolved first
      · exact .table resolved passed first
    · rintro (rejected | ⟨resolved', first⟩ | ⟨resolved', passed, first⟩)
      · rw [resolved] at rejected
        cases rejected
      · cases resolved.symm.trans resolved'
        exact .inl first
      · cases resolved.symm.trans resolved'
        exact .inr ⟨_, passed, first⟩

/-- The form of a definition that is not skipped fails in one of the ways above, with that error,
or is generated. A dangling reference is harmless on a property that is not flattened, and in the
items of a property that is skipped, has no type or is not shown as a table. -/
theorem generateForm_fails_iff {generator : Generator} {name : String} {definition : Definition}
    (found : generator.schema.definitions.get? name = some definition)
    (shown : (generator.rules.definitionRules name).isSkipped = false) (operation : Operation) :
    (∀ failure, generator.generateForm name operation = .error failure ↔
      generator.Fails name definition operation failure) ∧
    ((∃ generated, generator.generateForm name operation = .ok (some generated)) ↔
      ∀ failure, ¬ generator.Fails name definition operation failure) ∧
    ∀ rules, (generator.rules.definitionRules name).resolve operation = .ok rules →
      (∀ entry ∈ definition.properties.entries, ∀ reference,
        entry.2.reference = some reference → generator.schema.Dangling reference →
        ∀ rule, rules.field? entry.1 = some rule → rule.flatten = false) →
      (∀ flattened,
        generator.schema.flattenProperties name definition.properties rules = .ok flattened →
        ∀ entry ∈ flattened.entries, ∀ reference,
          entry.2.itemsReference = some reference → generator.schema.Dangling reference →
          rules.fieldType? entry ≠ some .table) →
      ∃ generated, generator.generateForm name operation = .ok (some generated) := by
  have form_eq := generateForm_of_shown found shown operation
  have fails_iff : ∀ failure, generator.generateForm name operation = .error failure ↔
      generator.Fails name definition operation failure := fun failure => by
    rw [form_eq, map_error_iff, build_error_iff]
  have form_iff : (∃ generated, generator.generateForm name operation = .ok (some generated)) ↔
      ∀ failure, ¬ generator.Fails name definition operation failure := by
    simp only [← fails_iff]
    rw [form_eq]
    cases generator.build name definition (generator.rules.definitionRules name) operation <;>
      simp [Except.map]
  refine ⟨fails_iff, form_iff, fun rules resolved unflattened untabled => form_iff.mpr ?_⟩
  rintro failure (rejected | ⟨resolved', first⟩ | ⟨resolved', passed, first⟩)
  · rw [resolved] at rejected
    cases rejected
  · cases resolved.symm.trans resolved'
    obtain ⟨entry, member, rule, reference, has_rule, flattens, refers, dangling, _⟩ :=
      exists_mem_of_firstFailure first
    rw [unflattened entry member reference refers dangling rule has_rule] at flattens
    cases flattens
  · cases resolved.symm.trans resolved'
    obtain ⟨entry, member, reference, is_table, refers, dangling, _⟩ :=
      exists_mem_of_firstFailure first
    exact untabled _ passed entry member reference refers dangling is_table

/-- An order's customer and its old lines are unknown too, but the one is not flattened and the
others are skipped. -/
def brokenOrders : Generator :=
  let rows (reference : String) : Property :=
    { type := some .array, items := some { reference := some reference } }
  let order : Properties := .ofEntries
    [("customer", { reference := some "#/definitions/Customer" }),
     ("old_lines", rows "#/definitions/OldLine"), ("lines", rows "#/definitions/"),
     ("notes", rows "#/definitions/Note")]
  { schema := { definitions := .ofEntries [("Order", { properties := order })] }
    rules :=
      { entries := .ofEntries
          [("Order", .object [("fields", .object
            [("old_lines", .object [("skip", .bool true)])])])] } }

theorem brokenOrders_fails :
    brokenOrders.generateForm "Order" .create =
        .error (.unresolvedReference "Order" "lines" "#/definitions/") ∧
      ∃ definition, brokenOrders.schema.definitions.get? "Order" = some definition ∧
        (brokenOrders.rules.definitionRules "Order").isSkipped = false ∧
        brokenOrders.Fails "Order" definition .create
          (.unresolvedReference "Order" "lines" "#/definitions/") := by
  have failed : brokenOrders.generateForm "Order" .create =
      .error (.unresolvedReference "Order" "lines" "#/definitions/") := by
    decide +kernel
  have shown : (brokenOrders.rules.definitionRules "Order").isSkipped = false := by decide
  refine ⟨failed, _, rfl, shown, ?_⟩
  exact ((generateForm_fails_iff rfl shown .create).1 _).mp failed

end Generator
end SchemaForms
