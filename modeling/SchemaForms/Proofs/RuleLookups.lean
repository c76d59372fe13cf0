import SchemaForms.Proofs.FormFields
/-! The rules of a form are only ever asked for a name: the rule of a property that the definition
has or that flattening brings in, and in a table the rule of a column that is referenced. Rules for
other names, and the order in which rules come, cannot be told from the form. -/
namespace SchemaForms

/-- A column that is not named has the empty rule. -/
def FieldRule.columnRule (rule : FieldRule) (column : String) : ColumnRule :=
  (rule.columns.get? column).getD {}

namespace FieldRule

/-- Two rules of a field that differ at most in their rules for columns, and there not for these. -/
structure AgreeOn (columns : List String) (first second : FieldRule) : Prop where
  others : { first with columns := {} } = { second with columns := {} }
  columns : ∀ column ∈ columns, first.columnRule column = second.columnRule column

instance (columns : List String) (first second : FieldRule) :
    Decidable (AgreeOn columns first second) :=
  decidable_of_iff
    ({ first with columns := {} } = { second with columns := {} } ∧
      ∀ column ∈ columns, first.columnRule column = second.columnRule column)
    ⟨fun ⟨others, columns⟩ => ⟨others, columns⟩, fun ⟨others, columns⟩ => ⟨others, columns⟩⟩

theorem AgreeOn.refl (columns : List String) (rule : FieldRule) : AgreeOn columns rule rule :=
  ⟨rfl, fun _ _ => rfl⟩

/-- What is read off a rule without its columns is the same for both. -/
theorem AgreeOn.read_eq {α : Type} {columns : List String} {first second : FieldRule}
    (agree : AgreeOn columns first second) (read : FieldRule → α)
    (blind : ∀ rule, read { rule with columns := {} } = read rule) : read first = read second := by
  rw [← blind first, agree.others, blind]

/-- The rules differ in the order of their columns. -/
def Reorders (first second : FieldRule) : Prop :=
  { first with columns := {} } = { second with columns := {} } ∧
    first.columns.entries.Perm second.columns.entries

theorem Reorders.agreeOn {first second : FieldRule} (reorders : first.Reorders second)
    (columns : List String) : AgreeOn columns first second := by
  refine ⟨reorders.1, fun column _ => ?_⟩
  rw [columnRule, columnRule, OrderedMap.get?_of_perm reorders.2]

end FieldRule

namespace RuleSet

/-- The rules differ in the order of their fields, and of the columns of each. -/
def Reorders (first second : RuleSet) : Prop :=
  OrderedMap.Reorders FieldRule.Reorders first.fields second.fields

theorem Reorders.agreeOn {first second : RuleSet} (reorders : first.Reorders second)
    (columns : List String) (property : String) :
    (first.fieldRule property).AgreeOn columns (second.fieldRule property) := by
  have found := OrderedMap.rel_get?_of_reorders reorders property
  unfold fieldRule field?
  generalize first.fields.get? property = rule?, second.fields.get? property = rule'? at found
  cases found with
  | none => exact .refl columns _
  | some reorders => exact reorders.agreeOn columns

theorem fieldRule_upsert_of_ne {property other : String} (differs : other ≠ property)
    (rules : RuleSet) (f : Option FieldRule → FieldRule) :
    fieldRule ⟨rules.fields.upsert other f⟩ property = rules.fieldRule property := by
  rw [fieldRule, field?, OrderedMap.get?_upsert, if_neg differs]
  rfl

theorem fieldRule_erase_of_ne {property other : String} (differs : other ≠ property)
    (rules : RuleSet) :
    fieldRule ⟨rules.fields.erase other⟩ property = rules.fieldRule property := by
  rw [fieldRule, field?, OrderedMap.get?_erase, if_neg differs]
  rfl

/-- Changing the column rules of a property is seen in the columns that change. -/
theorem agreeOn_modify {columns : List String} {property other : String}
    (change : OrderedMap ColumnRule → OrderedMap ColumnRule)
    (kept : property = other → ∀ column ∈ columns, ∀ own,
      (change own).get? column = own.get? column)
    (rules : RuleSet) :
    (rules.fieldRule other).AgreeOn columns
      (fieldRule ⟨rules.fields.modify property fun own =>
        { own with columns := change own.columns }⟩ other) := by
  unfold fieldRule field?
  rw [OrderedMap.get?_modify]
  by_cases here : property = other
  · rw [if_pos here]
    cases rules.fields.get? other with
    | none => exact .refl columns _
    | some own =>
      refine ⟨rfl, fun column member => ?_⟩
      exact congrArg (Option.getD · {}) (kept here column member own.columns).symm
  · rw [if_neg here]
    exact .refl columns _

theorem flattenMode?_eq (rules : RuleSet) (property : String) :
    rules.flattenMode? property =
      if (rules.fieldRule property).flatten then
        some (if (rules.fieldRule property).prefixed then .prefixed else .merge)
      else none := by
  unfold flattenMode? fieldRule
  cases rules.field? property with
  | none => rfl
  | some rule =>
    rw [Option.getD_some]
    cases flattens : rule.flatten with
    | false => rw [Option.filter_some_neg (by simp [flattens])]; rfl
    | true => rw [Option.filter_some_pos flattens]; rfl

end RuleSet

namespace Schema

/-- The names of the columns that the items of a property can bring to a table. -/
def itemNames (schema : Schema) (property : Property) : List String :=
  (property.itemsReference.bind schema.resolve?).elim [] OrderedMap.keys

/-- The properties of a form, unless a reference fails that the rules replace. -/
def flattened? (schema : Schema) (name : String) (definition : Definition) (rules : RuleSet) :
    Option Properties :=
  (schema.flattenProperties name definition.properties rules).toOption

/-- The properties for which a form asks its rules. -/
def fieldNames (schema : Schema) (name : String) (definition : Definition) (rules : RuleSet) :
    List String :=
  definition.properties.keys ++ (schema.flattened? name definition rules).elim [] OrderedMap.keys

/-- The columns for which a form asks the rule of a property. -/
def columnNames (schema : Schema) (name : String) (definition : Definition) (rules : RuleSet)
    (property : String) : List String :=
  ((schema.flattened? name definition rules).bind (·.get? property)).elim [] schema.itemNames

/-- Two rule sets give the same rule for every property of the form. -/
def RulesAgree (schema : Schema) (name : String) (definition : Definition)
    (first second : RuleSet) : Prop :=
  ∀ property ∈ schema.fieldNames name definition first,
    (first.fieldRule property).AgreeOn (schema.columnNames name definition first property)
      (second.fieldRule property)

theorem flattenProperties_of_agree {properties : Properties} {first second : RuleSet}
    (agree : ∀ property ∈ properties.keys,
      (first.fieldRule property).AgreeOn [] (second.fieldRule property))
    (schema : Schema) (name : String) :
    schema.flattenProperties name properties first =
      schema.flattenProperties name properties second := by
  refine foldlM_congr_of_mem (fun entry member current => ?_) properties
  have here := agree entry.1 (List.mem_map_of_mem member)
  have mode_eq : first.flattenMode? entry.1 = second.flattenMode? entry.1 := by
    rw [RuleSet.flattenMode?_eq, RuleSet.flattenMode?_eq,
      here.read_eq FieldRule.flatten fun _ => rfl, here.read_eq FieldRule.prefixed fun _ => rfl]
  rw [flattenProperty_eq, flattenProperty_eq, inlineProperty, mode_eq]
  rfl

end Schema

namespace Column

theorem ofProperty?_of_agree {first second : OrderedMap ColumnRule} {entry : String × Property}
    (same : (first.get? entry.1).getD {} = (second.get? entry.1).getD {}) (tableKey : LocaleKey) :
    ofProperty? tableKey first entry = ofProperty? tableKey second entry := by
  unfold ofProperty?
  simp only [same]

/-- Columns are made for referenced properties, whatever else the rules name. -/
theorem build_of_agree {first second : FieldRule} {referenced : Properties}
    (agree : first.AgreeOn referenced.keys second) (tableKey : LocaleKey) :
    build tableKey first referenced = build tableKey second referenced := by
  have inferred : referenced.entries.filterMap (ofProperty? tableKey first.columns) =
      referenced.entries.filterMap (ofProperty? tableKey second.columns) :=
    List.filterMap_congr fun entry member =>
      ofProperty?_of_agree (agree.columns entry.1 (List.mem_map_of_mem member)) tableKey
  have extra : first.extraColumns = second.extraColumns :=
    agree.read_eq FieldRule.extraColumns fun _ => rfl
  have declared_eq : declared tableKey first referenced = declared tableKey second referenced := by
    rw [declared, declared, inferred, extra]
  rw [build, build, declared_eq]

end Column

namespace Field
variable {scope : FormScope} {property : Property}

theorem columnsOf_of_agree {first second : FieldRule}
    (agree : first.AgreeOn (scope.schema.itemNames property) second) (name : String) :
    columnsOf scope name property first = columnsOf scope name property second := by
  unfold columnsOf Schema.follow
  unfold Schema.itemNames at agree
  generalize property.itemsReference = reference? at agree
  cases reference? with
  | none => rfl
  | some reference =>
    simp only [Option.bind_some] at agree ⊢
    cases resolved : scope.schema.resolve? reference with
    | none => rfl
    | some referenced =>
      rw [resolved] at agree
      exact congrArg Except.ok (Column.build_of_agree agree _)

theorem withContent_of_agree {first second : FieldRule}
    (agree : first.AgreeOn (scope.schema.itemNames property) second) (name : String)
    (heading : Labelled Field) :
    withContent scope name property first heading =
      withContent scope name property second heading := by
  unfold withContent
  rw [columnsOf_of_agree agree]

theorem build_of_agree {name : String} {first second : RuleSet}
    (agree : (first.fieldRule name).AgreeOn (scope.schema.itemNames property)
      (second.fieldRule name)) :
    build scope first (name, property) = build scope second (name, property) := by
  have type_eq : first.fieldType? (name, property) = second.fieldType? (name, property) := by
    rw [← typeOf?_eq_fieldType?, ← typeOf?_eq_fieldType?]
    exact agree.read_eq (typeOf? · property) fun _ => rfl
  have extra_eq : (first.fieldRule name).extra = (second.fieldRule name).extra :=
    agree.read_eq FieldRule.extra fun _ => rfl
  cases typed : first.fieldType? (name, property) with
  | none => rw [build_of_untyped typed, build_of_untyped (type_eq ▸ typed)]
  | some type =>
    rw [build_of_typed typed, build_of_typed (type_eq ▸ typed)]
    unfold RuleSet.fieldRule at agree extra_eq
    simp only [withContent_of_agree agree, extra_eq]

end Field

namespace Schema

/-- The form asks the rules by name only. -/
theorem buildForm_of_agree {schema : Schema} {name : String} {definition : Definition}
    {first second : RuleSet} (agree : schema.RulesAgree name definition first second)
    (operation : Operation) :
    schema.buildForm name definition operation first =
      schema.buildForm name definition operation second := by
  have flattened_eq : schema.flattenProperties name definition.properties first =
      schema.flattenProperties name definition.properties second :=
    flattenProperties_of_agree (fun property member =>
      ⟨(agree property (List.mem_append_left _ member)).others, nofun⟩) schema name
  unfold buildForm
  rw [← flattened_eq]
  cases done : schema.flattenProperties name definition.properties first with
  | error failure => simp only [bind, Except.bind]
  | ok flattened =>
    have flattened?_eq : schema.flattened? name definition first = some flattened := by
      rw [flattened?, done]
      rfl
    have fields_eq : (schema.formScope name definition operation).fields first flattened =
        (schema.formScope name definition operation).fields second flattened := by
      refine congrArg (Except.map _) (mapM_congr_of_mem ?_)
      rintro ⟨property, attributes⟩ member
      have asked : property ∈ schema.fieldNames name definition first := by
        rw [fieldNames, flattened?_eq]
        exact List.mem_append_right _ (List.mem_map_of_mem member)
      have columns_eq : schema.columnNames name definition first property =
          schema.itemNames attributes := by
        rw [columnNames, flattened?_eq, Option.bind_some, OrderedMap.mem_entries_iff.mp member]
        rfl
      exact Field.build_of_agree (columns_eq ▸ agree property asked)
    unfold formScope at fields_eq
    simp only [bind, Except.bind, fields_eq]

/-- The outcome for a form is that of any rules that give every property of the form the same rule,
up to columns that its items do not refer to. So these change nothing: rules for other properties,
rules for other columns, and the order of the rules. -/
theorem buildForm_by_lookup (schema : Schema) (name : String) (definition : Definition)
    (operation : Operation) (rules : RuleSet) :
    let outcome := schema.buildForm name definition operation
    (∀ other, schema.RulesAgree name definition rules other → outcome rules = outcome other) ∧
    (∀ property ∉ schema.fieldNames name definition rules,
      (∀ rule, outcome rules = outcome ⟨rules.fields.insert property rule⟩) ∧
      outcome rules = outcome ⟨rules.fields.erase property⟩) ∧
    (∀ property, ∀ column ∉ schema.columnNames name definition rules property,
      (∀ rule, outcome rules = outcome ⟨rules.fields.modify property fun own =>
        { own with columns := own.columns.insert column rule }⟩) ∧
      outcome rules = outcome ⟨rules.fields.modify property fun own =>
        { own with columns := own.columns.erase column }⟩) ∧
    ∀ other, rules.Reorders other → outcome rules = outcome other := by
  intro outcome
  refine ⟨fun other agree => buildForm_of_agree agree operation, ?_, ?_, ?_⟩
  · intro property unasked
    have differs {other : String} (asked : other ∈ schema.fieldNames name definition rules) :
        property ≠ other := fun same => unasked (same ▸ asked)
    refine ⟨fun rule => buildForm_of_agree (fun other asked => ?_) operation,
      buildForm_of_agree (fun other asked => ?_) operation⟩
    · rw [OrderedMap.insert, RuleSet.fieldRule_upsert_of_ne (differs asked)]
      exact .refl _ _
    · rw [RuleSet.fieldRule_erase_of_ne (differs asked)]
      exact .refl _ _
  · intro property column unasked
    have differs {other : String}
        (asked : other ∈ schema.columnNames name definition rules property) : column ≠ other :=
      fun same => unasked (same ▸ asked)
    refine ⟨fun rule => buildForm_of_agree (fun other _ =>
        RuleSet.agreeOn_modify (·.insert column rule) ?_ rules) operation,
      buildForm_of_agree (fun other _ =>
        RuleSet.agreeOn_modify (·.erase column) ?_ rules) operation⟩
    · rintro rfl asked member own
      rw [OrderedMap.insert, OrderedMap.get?_upsert, if_neg (differs member)]
    · rintro rfl asked member own
      rw [OrderedMap.get?_erase, if_neg (differs member)]
  · intro other reorders
    exact buildForm_of_agree (fun property _ => reorders.agreeOn _ property) operation

/-- A shipment has lines, and a carrier of which its form shows the parts. -/
def shipments : Schema :=
  let line : Properties := .ofEntries
    [("amount", { type := some .integer, format := some .int32 }),
     ("note", { type := some .string })]
  let shipment : Properties := .ofEntries
    [("carrier", { reference := some "#/definitions/Carrier" }),
     ("lines", { type := some .array, items := some { reference := some "#/definitions/Line" } })]
  { definitions := .ofEntries
      [("Shipment", { properties := shipment }), ("Line", { properties := line }),
       ("Carrier", { properties := .ofEntries [("name", { type := some .string })] })] }

def shipment : Definition := (shipments.definitions.get? "Shipment").getD {}

/-- Amounts come last in a row. -/
def shipmentRules : RuleSet :=
  { fields := .ofEntries
      [("carrier", { flatten := true, prefixed := true }),
       ("lines", { columns := .ofEntries [("amount", { order := some (.ofInt 200) })] }),
       ("carrier.name", { extra := .ofEntries [("hint", .string "As registered")] })] }

/-- The same in another order, with a rule for a field and one for a column that no shipment has. -/
def cargoRules : RuleSet :=
  { fields := .ofEntries
      [("weight", { type := some .number }),
       ("carrier.name", { extra := .ofEntries [("hint", .string "As registered")] }),
       ("lines",
        { columns := .ofEntries
            [("weight", { skip := true }), ("amount", { order := some (.ofInt 200) })] }),
       ("carrier", { flatten := true, prefixed := true })] }

/-- The same rules the other way round. -/
def reversedShipmentRules : RuleSet :=
  { fields := .ofEntries shipmentRules.fields.entries.reverse }

theorem shipmentRules_reorders : shipmentRules.Reorders reversedShipmentRules :=
  ⟨shipmentRules.fields.entries.reverse, (List.reverse_perm _).symm,
    .cons ⟨rfl, rfl, .refl _⟩ (.cons ⟨rfl, rfl, .refl _⟩ (.cons ⟨rfl, rfl, .refl _⟩ .nil))⟩

theorem shipment_rulesAgree :
    shipments.RulesAgree "Shipment" shipment shipmentRules cargoRules := by
  unfold RulesAgree
  decide

theorem shipmentForm_by_lookup :
    shipments.RulesAgree "Shipment" shipment shipmentRules cargoRules ∧
      shipments.buildForm "Shipment" shipment .create shipmentRules =
        shipments.buildForm "Shipment" shipment .create cargoRules ∧
      "weight" ∉ shipments.fieldNames "Shipment" shipment shipmentRules ∧
      shipments.buildForm "Shipment" shipment .create shipmentRules =
        shipments.buildForm "Shipment" shipment .create
          ⟨shipmentRules.fields.insert "weight" { type := some .number }⟩ ∧
      "weight" ∉ shipments.columnNames "Shipment" shipment shipmentRules "lines" ∧
      shipments.buildForm "Shipment" shipment .create shipmentRules =
        shipments.buildForm "Shipment" shipment .create
          ⟨shipmentRules.fields.modify "lines" fun own =>
            { own with columns := own.columns.insert "weight" { skip := true } }⟩ ∧
      shipmentRules.Reorders reversedShipmentRules ∧
      shipments.buildForm "Shipment" shipment .create shipmentRules =
        shipments.buildForm "Shipment" shipment .create reversedShipmentRules := by
  obtain ⟨agreeing, fields, columns, reordering⟩ :=
    buildForm_by_lookup shipments "Shipment" shipment .create shipmentRules
  have no_field : "weight" ∉ shipments.fieldNames "Shipment" shipment shipmentRules := by decide
  have no_column : "weight" ∉ shipments.columnNames "Shipment" shipment shipmentRules "lines" := by
    decide
  exact ⟨shipment_rulesAgree, agreeing _ shipment_rulesAgree, no_field, (fields _ no_field).1 _,
    no_column, (columns _ _ no_column).1 _, shipmentRules_reorders,
    reordering _ shipmentRules_reorders⟩

end Schema
end SchemaForms
