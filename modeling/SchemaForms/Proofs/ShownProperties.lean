import SchemaForms.Proofs.FormFields
/-! Properties that a form does not show leave no trace in it. Those that are skipped or call for
no field may be taken from the flattened properties, and those without a column from the definition
that the rows of a table refer to: the form, its locale map and its failure stay. -/
namespace SchemaForms

/-- The properties that have a field, with their names. -/
def RuleSet.shown (rules : RuleSet) (properties : Properties) : Properties :=
  properties.filter fun entry => rules.HasField entry

/-- The table of a property has a column for the referenced property. -/
def RuleSet.showsColumn (rules : RuleSet) (entry column : String × Property) : Bool :=
  column.2.columnType?.isSome &&
    !((((rules.field? entry.1).getD {}).columns.get? column.1).getD {}).skip

/-- Some table among the properties has rows of the definition and a column for its property. -/
def RuleSet.tabulates (rules : RuleSet) (properties : Properties) (definition : String)
    (column : String × Property) : Bool :=
  properties.entries.any fun entry =>
    rules.fieldType? entry = some .table &&
      entry.2.itemsReference.bind referenceName? = some definition &&
      rules.showsColumn entry column

/-- The schema with only the accepted properties in one of its definitions. -/
def Schema.restrict (schema : Schema) (name : String) (keep : String × Property → Bool) : Schema :=
  { definitions := schema.definitions.modify name fun definition =>
      { definition with properties := definition.properties.filter keep } }

/-- The form and locale map that are assembled from flattened properties. -/
def FormScope.form (scope : FormScope) (rules : RuleSet) (properties : Properties) :
    Except FormError (Form × LocaleMap) :=
  (scope.fields rules properties).map scope.assemble

theorem Schema.resolve?_restrict (schema : Schema) (name : String)
    (keep : String × Property → Bool) (reference : String) :
    (schema.restrict name keep).resolve? reference =
      if referenceName? reference = some name then (schema.resolve? reference).map (·.filter keep)
      else schema.resolve? reference := by
  unfold resolve? restrict
  cases named : referenceName? reference with
  | none => rfl
  | some target =>
    simp only [Option.bind_some, OrderedMap.get?_modify, Option.some.injEq]
    by_cases same : target = name
    · subst same
      rw [if_pos rfl, if_pos rfl]
      cases schema.definitions.get? target <;> rfl
    · rw [if_neg (Ne.symm same), if_neg same]

namespace Column

theorem ofProperty?_of_hidden {rules : RuleSet} {entry column : String × Property}
    (hidden : rules.showsColumn entry column = false) (tableKey : LocaleKey) :
    ofProperty? tableKey ((rules.field? entry.1).getD {}).columns column = none := by
  obtain ⟨name, property⟩ := column
  unfold RuleSet.showsColumn at hidden
  unfold ofProperty?
  cases typed : property.columnType? with
  | none => simp only [typed]
  | some type =>
    rw [typed, Option.isSome_some, Bool.true_and, Bool.not_eq_false'] at hidden
    simp only [typed, hidden, if_true]

/-- Referenced properties without a column may be left out of a table. -/
theorem build_filter {rules : RuleSet} {entry : String × Property}
    {keep : String × Property → Bool}
    (kept : ∀ column, rules.showsColumn entry column = true → keep column = true)
    (tableKey : LocaleKey) (referenced : Properties) :
    build tableKey ((rules.field? entry.1).getD {}) (referenced.filter keep) =
      build tableKey ((rules.field? entry.1).getD {}) referenced := by
  have declared_eq : declared tableKey ((rules.field? entry.1).getD {}) (referenced.filter keep) =
      declared tableKey ((rules.field? entry.1).getD {}) referenced := by
    unfold declared
    congr 1
    rw [OrderedMap.filter, List.filterMap_filter]
    apply List.filterMap_congr
    intro column _
    cases accepted : keep column with
    | true => rfl
    | false =>
      have hidden : rules.showsColumn entry column = false :=
        Bool.eq_false_iff.mpr fun shows => by rw [kept column shows] at accepted; cases accepted
      exact (ofProperty?_of_hidden hidden tableKey).symm
  unfold build
  rw [declared_eq]

end Column

namespace Field

/-- The columns of a table are the same over a definition that keeps what they show. -/
theorem columnsOf_restrict {scope : FormScope} {rules : RuleSet} {entry : String × Property}
    {name : String} {keep : String × Property → Bool}
    (kept : entry.2.itemsReference.bind referenceName? = some name →
      ∀ column, rules.showsColumn entry column = true → keep column = true) :
    columnsOf { scope with schema := scope.schema.restrict name keep } entry.1 entry.2
        ((rules.field? entry.1).getD {}) =
      columnsOf scope entry.1 entry.2 ((rules.field? entry.1).getD {}) := by
  unfold columnsOf Schema.follow
  cases refers : entry.2.itemsReference with
  | none => rfl
  | some reference =>
    simp only [Schema.resolve?_restrict]
    by_cases target : referenceName? reference = some name
    · rw [if_pos target]
      have kept_here := kept (by rw [refers]; exact target)
      cases scope.schema.resolve? reference with
      | none => rfl
      | some referenced => exact congrArg Except.ok (Column.build_filter kept_here _ referenced)
    · rw [if_neg target]

theorem build_restrict {scope : FormScope} {rules : RuleSet} {entry : String × Property}
    {name : String} {keep : String × Property → Bool}
    (kept : rules.fieldType? entry = some .table →
      entry.2.itemsReference.bind referenceName? = some name →
      ∀ column, rules.showsColumn entry column = true → keep column = true) :
    build { scope with schema := scope.schema.restrict name keep } rules entry =
      build scope rules entry := by
  cases typed : rules.fieldType? entry with
  | none => rw [build_of_untyped typed, build_of_untyped typed]
  | some type =>
    rw [build_of_typed typed, build_of_typed typed]
    -- The heading does not consult the schema, so that only the content of a table can differ.
    have heading_eq : heading { scope with schema := scope.schema.restrict name keep } entry.1
        entry.2 type = heading scope entry.1 entry.2 type := rfl
    rw [heading_eq]
    refine congrArg (Except.map _) ?_
    unfold withContent
    rw [heading_type]
    split
    · rfl
    · rw [columnsOf_restrict (kept typed)]
    · rfl

end Field

theorem RuleSet.tabulates_of_mem {rules : RuleSet} {properties : Properties}
    {entry column : String × Property} {definition : String} (member : entry ∈ properties.entries)
    (is_table : rules.fieldType? entry = some .table)
    (refers : entry.2.itemsReference.bind referenceName? = some definition)
    (shows : rules.showsColumn entry column = true) :
    rules.tabulates properties definition column = true := by
  refine List.any_eq_true.mpr ⟨entry, member, ?_⟩
  simp [is_table, refers, shows]

namespace FormScope

theorem form_shown (scope : FormScope) (rules : RuleSet) (properties : Properties) :
    scope.form rules (rules.shown properties) = scope.form rules properties := by
  have nothing : ∀ entry, decide (rules.HasField entry) = false →
      Field.build scope rules entry = .ok none := by
    intro entry fieldless
    exact Field.build_of_untyped (RuleSet.not_hasField_iff.mp (of_decide_eq_false fieldless))
  exact congrArg (Except.map scope.assemble) (mapM_filter_of_none nothing properties.entries)

theorem form_restrict (scope : FormScope) (rules : RuleSet) (properties : Properties)
    (name : String) :
    { scope with schema := scope.schema.restrict name (rules.tabulates properties name) }.form
        rules properties =
      scope.form rules properties := by
  have built_eq : ∀ entry ∈ properties.entries,
      Field.build { scope with
        schema := scope.schema.restrict name (rules.tabulates properties name) } rules entry =
        Field.build scope rules entry := by
    intro entry member
    apply Field.build_restrict
    intro is_table refers column shows
    exact RuleSet.tabulates_of_mem member is_table refers shows
  unfold form FormScope.fields
  rw [mapM_congr_of_mem built_eq]
  rfl

end FormScope

/-- The form of a definition is assembled from its flattened properties alone. -/
theorem Schema.buildForm_eq_form (schema : Schema) (name : String) (definition : Definition)
    (operation : Operation) (rules : RuleSet) :
    schema.buildForm name definition operation rules =
      (schema.flattenProperties name definition.properties rules).bind fun properties =>
        ((schema.formScope name definition operation).form rules properties).map
          fun (form, locales) => { definition := name, operation, form, locales } := by
  unfold buildForm FormScope.form formScope
  cases schema.flattenProperties name definition.properties rules with
  | error failure => rfl
  | ok properties =>
    simp only [bind, Except.bind]
    cases FormScope.fields { schema, name, definition, root := .root name operation } rules
      properties <;> rfl

/-- Properties that a form does not show leave no trace. The flattened properties that are skipped
or call for no field may be removed, and so may the properties of a referenced definition that a
table has no column for: the field of that table and its labels stay, and the whole form does when
no other table shows them either. -/
theorem Schema.buildForm_of_shown (schema : Schema) (name : String) (definition : Definition)
    (operation : Operation) (rules : RuleSet) :
    let scope := schema.formScope name definition operation
    (∀ properties, scope.form rules (rules.shown properties) = scope.form rules properties) ∧
    (∀ entry target,
      Field.build { scope with schema := schema.restrict target (rules.showsColumn entry) } rules
          entry =
        Field.build scope rules entry) ∧
    (∀ properties target,
      { scope with schema := schema.restrict target (rules.tabulates properties target) }.form rules
          properties =
        scope.form rules properties) ∧
    schema.buildForm name definition operation rules =
      (schema.flattenProperties name definition.properties rules).bind fun properties =>
        (scope.form rules (rules.shown properties)).map
          fun (form, locales) => { definition := name, operation, form, locales } := by
  intro scope
  refine ⟨scope.form_shown rules, ?_, scope.form_restrict rules, ?_⟩
  · intro entry target
    have same : Field.build
        { scope with schema := scope.schema.restrict target (rules.showsColumn entry) } rules
          entry = Field.build scope rules entry :=
      Field.build_restrict fun _ _ _ shows => shows
    exact same
  · rw [buildForm_eq_form]
    simp only [FormScope.form_shown]
    rfl

def linesProperty : Property :=
  { type := some .array, items := some { reference := some "#/definitions/Line" } }

/-- A slip with lines, whose former lines refer to a definition that is gone. -/
def slip : Definition :=
  { properties := .ofEntries
      [("id", { type := some .string }),
       ("old_lines",
         { type := some .array, items := some { reference := some "#/definitions/OldLine" } }),
       ("note", {}), ("lines", linesProperty), ("done", { type := some .string })] }

def amountProperty : Property := { type := some .number, format := some .double }

def slips : Schema :=
  { definitions := .ofEntries
      [("Slip", slip),
       ("Line",
         { properties := .ofEntries
             [("count", amountProperty), ("cost", amountProperty), ("remark", {}),
              ("price", amountProperty)] })] }

def slipRules : RuleSet :=
  { fields := .ofEntries
      [("old_lines", { skip := true }),
       ("lines", { columns := .ofEntries [("cost", { skip := true })] })] }

def slipScope : FormScope := slips.formScope "Slip" slip .create

def shownSlip : Properties := .ofEntries
  [("id", { type := some .string }), ("lines", linesProperty), ("done", { type := some .string })]

def shownSlips : Schema :=
  { definitions := .ofEntries
      [("Slip", slip),
       ("Line",
         { properties := .ofEntries [("count", amountProperty), ("price", amountProperty)] })] }

/-- The former lines are skipped and the note has no type. Of the columns the cost is skipped and
the remark has no type. The form is the same without the two properties, and so is the table without
the two columns. -/
theorem slipForm_of_shown :
    slipRules.shown slip.properties = shownSlip ∧
      slips.restrict "Line" (slipRules.showsColumn ("lines", linesProperty)) = shownSlips ∧
      slipScope.form slipRules shownSlip = slipScope.form slipRules slip.properties ∧
      Field.build { slipScope with schema := shownSlips } slipRules ("lines", linesProperty) =
        Field.build slipScope slipRules ("lines", linesProperty) ∧
      (slipScope.form slipRules slip.properties).map (fun made => made.2.keys) =
        .ok ["forms.slipCreate", "forms.slipCreate.id", "forms.slipCreate.lines",
          "forms.slipCreate.lines.count", "forms.slipCreate.lines.price", "forms.slipCreate.done",
          "forms.slipCreate.save"] := by
  obtain ⟨shown_alike, table_alike, _, _⟩ := slips.buildForm_of_shown "Slip" slip .create slipRules
  have shown : slipRules.shown slip.properties = shownSlip := by decide +kernel
  have restricted : slips.restrict "Line" (slipRules.showsColumn ("lines", linesProperty)) =
      shownSlips := by decide +kernel
  refine ⟨shown, restricted, ?_, ?_, by decide +kernel⟩
  · rw [← shown]
    exact shown_alike slip.properties
  · rw [← restricted]
    exact table_alike ("lines", linesProperty) "Line"

end SchemaForms
