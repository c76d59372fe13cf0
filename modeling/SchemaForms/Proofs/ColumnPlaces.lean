import SchemaForms.Proofs.ColumnOrder
import SchemaForms.Proofs.FormDocuments
import SchemaForms.Proofs.RuleLookups
/-! What the orders of columns can change. Under rules that differ in such orders alone the same
columns are declared and the same labels registered; sorting then puts the columns at other places,
and no document shows by what. -/
namespace SchemaForms

/-- The rule without what decides the place of its column. -/
def ColumnRule.unordered (rule : ColumnRule) : ColumnRule :=
  { rule with order := none, extra := rule.extra.erase "order" }

def FieldRule.unordered (rule : FieldRule) : FieldRule :=
  { rule with
    columns := rule.columns.mapValues ColumnRule.unordered
    extraColumns := rule.extraColumns.mapValues (·.erase "order") }

def RuleSet.unordered (rules : RuleSet) : RuleSet :=
  { fields := rules.fields.mapValues FieldRule.unordered }

theorem FieldRule.columnRule_unordered (rule : FieldRule) (column : String) :
    rule.unordered.columnRule column = (rule.columnRule column).unordered := by
  unfold columnRule unordered
  dsimp only
  rw [OrderedMap.get?_mapValues]
  cases rule.columns.get? column <;> rfl

theorem RuleSet.fieldRule_unordered (rules : RuleSet) (property : String) :
    rules.unordered.fieldRule property = (rules.fieldRule property).unordered := by
  unfold fieldRule field? unordered
  rw [OrderedMap.get?_mapValues]
  cases rules.fields.get? property <;> rfl

theorem RuleSet.fieldType?_unordered (rules : RuleSet) (entry : String × Property) :
    rules.unordered.fieldType? entry = rules.fieldType? entry := by
  apply Option.ext
  intro type
  rw [fieldType?_eq_some_iff, fieldType?_eq_some_iff, fieldRule_unordered]
  rfl

theorem RuleSet.flattenMode?_unordered (rules : RuleSet) :
    rules.unordered.flattenMode? = rules.flattenMode? := by
  funext property
  rw [flattenMode?_eq, flattenMode?_eq, fieldRule_unordered]
  rfl

/-- The part with its value changed and its labels kept. -/
def Labelled.mapValue {α β : Type} (f : α → β) (part : Labelled α) : Labelled β :=
  { value := f part.value, labels := part.labels }

/-- The same labels in the same order, and values that correspond. -/
def Labelled.Rel {α : Type} (related : α → α → Prop) (part other : Labelled α) : Prop :=
  part.labels = other.labels ∧ related part.value other.value

namespace Column

/-- The column without its place. -/
def unplaced (column : Column) : Column := { column with order := defaultOrder }

theorem toJson_unplaced (column : Column) : column.unplaced.toJson = column.toJson := rfl

theorem literalOrder?_erase (attributes : OrderedMap Json) :
    literalOrder? (attributes.erase "order") = none := by
  rw [literalOrder?, OrderedMap.get?_erase, if_pos rfl]
  rfl

theorem ofProperty?_unordered (tableKey : LocaleKey) (rule : FieldRule)
    (entry : String × Property) :
    ofProperty? tableKey rule.unordered.columns entry =
      (ofProperty? tableKey rule.columns entry).map (Labelled.mapValue unplaced) := by
  have rule_eq := rule.columnRule_unordered entry.1
  unfold FieldRule.columnRule at rule_eq
  unfold ofProperty?
  simp only [rule_eq]
  cases entry.2.columnType? with
  | none => rfl
  | some type =>
    cases skipped : ((rule.columns.get? entry.1).getD {}).skip with
    | true => simp [ColumnRule.unordered, skipped]
    | false =>
      simp [ColumnRule.unordered, skipped, Labelled.mapValue, unplaced, literalOrder?_erase,
        OrderedMap.erase_erase]

theorem ofAttributes_unordered (tableKey : LocaleKey) (name : String)
    (attributes : OrderedMap Json) :
    ofAttributes tableKey (name, attributes.erase "order") =
      (ofAttributes tableKey (name, attributes)).mapValue unplaced := by
  have title_eq : (attributes.erase "order").contains "title" = attributes.contains "title" := by
    rw [OrderedMap.contains, OrderedMap.get?_erase, if_neg (by decide)]
    rfl
  simp [ofAttributes, Labelled.mapValue, unplaced, literalOrder?_erase, OrderedMap.erase_erase,
    title_eq]

/-- Without orders the same columns are declared, each with the default order. -/
theorem declared_unordered (tableKey : LocaleKey) (rule : FieldRule) (referenced : Properties) :
    declared tableKey rule.unordered referenced =
      (declared tableKey rule referenced).map (Labelled.mapValue unplaced) := by
  unfold declared
  rw [List.map_append, List.map_filterMap, List.map_map]
  congr 1
  · exact List.filterMap_congr fun entry _ => ofProperty?_unordered tableKey rule entry
  · have entries_eq : rule.unordered.extraColumns.entries =
        rule.extraColumns.entries.map fun entry => (entry.1, entry.2.erase "order") := rfl
    rw [entries_eq, List.map_map]
    exact List.map_congr_left fun entry _ => ofAttributes_unordered tableKey entry.1 entry.2

/-- The columns show the same in any order, and none of them shows its order. -/
structure Rearranged (columns other : List Column) : Prop where
  perm : (columns.map toJson).Perm (other.map toJson)
  hidden : ∀ column ∈ columns ++ other, column.toJson.get? "order" = none

theorem rearranged_nil : Rearranged [] [] := ⟨.nil, by simp⟩

theorem get?_order_of_extra {column : Column} (erased : column.extra.get? "order" = none) :
    column.toJson.get? "order" = none := by
  have own : ¬ column.extra.contains "order" := by simp [OrderedMap.contains, erased]
  rw [get?_toJson column own, get?_attributes]
  rfl

theorem get?_order_of_ofProperty? {tableKey : LocaleKey} {rules : OrderedMap ColumnRule}
    {entry : String × Property} {column : Labelled Column}
    (made : ofProperty? tableKey rules entry = some column) :
    column.value.extra.get? "order" = none := by
  unfold ofProperty? at made
  cases inferred : entry.2.columnType? with
  | none => simp [inferred] at made
  | some type =>
    cases skipped : ((rules.get? entry.1).getD {}).skip with
    | true => simp [inferred, skipped] at made
    | false =>
      simp only [inferred, skipped, Bool.false_eq_true, if_false, Option.some.injEq] at made
      subst made
      exact (OrderedMap.get?_erase _ _ _).trans (if_pos rfl)

theorem get?_order_of_build {tableKey : LocaleKey} {rule : FieldRule} {referenced : Properties}
    {column : Column} (member : column ∈ (build tableKey rule referenced).value) :
    column.toJson.get? "order" = none := by
  rw [build, (sort_perm _).mem_iff] at member
  obtain ⟨made, declares, rfl⟩ := List.mem_map.mp member
  apply get?_order_of_extra
  rcases mem_declared_iff.mp declares with ⟨entry, _, from_rule⟩ | ⟨entry, _, rfl⟩
  · exact get?_order_of_ofProperty? from_rule
  · exact (OrderedMap.get?_erase _ _ _).trans (if_pos rfl)

/-- The documents of a table's columns are those that are declared. -/
theorem perm_build (tableKey : LocaleKey) (rule : FieldRule) (referenced : Properties) :
    ((build tableKey rule referenced).value.map toJson).Perm
      ((declared tableKey rule.unordered referenced).map fun column => column.value.toJson) := by
  have documents : (fun column : Labelled Column => column.value.toJson) ∘
      Labelled.mapValue unplaced = toJson ∘ Labelled.value :=
    funext fun column => toJson_unplaced column.value
  rw [declared_unordered, List.map_map, documents, ← List.map_map]
  exact (sort_perm _).map toJson

theorem labels_build (tableKey : LocaleKey) (rule : FieldRule) (referenced : Properties) :
    (build tableKey rule referenced).labels =
      (declared tableKey rule.unordered referenced).flatMap Labelled.labels := by
  rw [declared_unordered, List.flatMap_map]
  rfl

theorem build_of_unordered {first second : FieldRule} (same : first.unordered = second.unordered)
    (tableKey : LocaleKey) (referenced : Properties) :
    Labelled.Rel Rearranged (build tableKey first referenced)
      (build tableKey second referenced) := by
  refine ⟨?_, ?_, fun column member => ?_⟩
  · rw [labels_build, labels_build, same]
  · have first_perm := perm_build tableKey first referenced
    rw [same] at first_perm
    exact first_perm.trans (perm_build tableKey second referenced).symm
  · rcases List.mem_append.mp member with here | there
    · exact get?_order_of_build here
    · exact get?_order_of_build there

end Column

/-- The documents are the same, but for the order of the columns in one member. -/
inductive Json.RearrangesColumns : Json → Json → Prop where
  | same (document : Json) : RearrangesColumns document document
  | columns (before after : Entries Json) {columns other : List Json}
      (perm : columns.Perm other) (hidden : ∀ column ∈ columns, column.get? "order" = none) :
    RearrangesColumns (.object (before ++ ("columns", .array columns) :: after))
      (.object (before ++ ("columns", .array other) :: after))

namespace Field

/-- The fields show the same, but the columns of a table may stand in any order. -/
structure Rearranges (field other : Field) : Prop where
  others : { field with columns := none } = { other with columns := none }
  plain : field.type ≠ .table → field = other
  columns : Option.Rel Column.Rearranged field.columns other.columns

theorem rearranges_self {field : Field} (bare : field.columns = none) : field.Rearranges field :=
  ⟨rfl, fun _ => rfl, bare ▸ .none⟩

theorem Rearranges.name_eq {field other : Field} (rearranges : field.Rearranges other) :
    field.name = other.name := by
  have bare_eq := congrArg name rearranges.others
  exact bare_eq

theorem Rearranges.withExtra {field other : Field} (rearranges : field.Rearranges other)
    (extra : OrderedMap Json) :
    Rearranges { field with extra } { other with extra } where
  others := congrArg (fun field : Field => { field with extra }) rearranges.others
  plain type := congrArg (fun field : Field => { field with extra }) (rearranges.plain type)
  columns := rearranges.columns

theorem exists_attributes (field : Field) :
    ∃ before after, "columns" ∉ Entries.keys before ∧ ∀ columns,
      attributes { field with columns := some columns } =
        before ++ ("columns", .array (columns.map Column.toJson)) :: after := by
  refine ⟨[("name", .string field.name), ("type", .string field.type.name)] ++
      optionalMember "title" (fun key => .string key.reference) field.title ++
      optionalMember "required" .bool field.required ++
      optionalMember "text" (fun key => .string key.reference) field.text ++
      optionalMember "options" (fun options => .array (options.map Choice.toOptionJson))
        field.options,
    if field.addRows then [("addRows", .bool true)] else [], ?_, fun columns => ?_⟩
  · rw [← Entries.get?_eq_none_iff]
    simp [Entries.get?_append, Entries.get?_cons, Entries.get?_optionalMember]
  · have shown : optionalMember "columns" (fun columns => .array (columns.map Column.toJson))
        (some columns) = [("columns", .array (columns.map Column.toJson))] := rfl
    simp only [attributes, shown, List.append_assoc, List.singleton_append]

/-- Free attributes may replace the columns. Otherwise these stand among members that are the same
for any columns. -/
theorem toJson_columns_cases (field : Field) :
    (∀ columns other, toJson { field with columns := some columns } =
      toJson { field with columns := some other }) ∨
    ∃ before after, ∀ columns, toJson { field with columns := some columns } =
      .object (before ++ ("columns", .array (columns.map Column.toJson)) :: after) := by
  obtain ⟨before, after, absent, attributes_eq⟩ := exists_attributes field
  simp only [toJson, attributes_eq]
  rcases Entries.insertAll_middle absent after field.extra.entries with
    replaced | ⟨before', after', kept⟩
  · exact .inl fun columns other => congrArg Json.object (replaced _ _)
  · exact .inr ⟨before', after', fun columns => congrArg Json.object (kept _)⟩

theorem Rearranges.documents {field other : Field} (rearranges : field.Rearranges other) :
    Json.RearrangesColumns field.toJson other.toJson := by
  -- Both are documents of one field that is given different columns.
  have other_eq : other = { field with columns := other.columns } :=
    congrArg (fun bare : Field => { bare with columns := other.columns }) rearranges.others.symm
  have related := rearranges.columns
  rw [other_eq]
  generalize other.columns = others? at related
  cases columns_eq : field.columns with
  | none =>
    rw [columns_eq] at related
    cases related
    rw [← columns_eq]
    exact .same _
  | some columns =>
    have field_eq : field = { field with columns := some columns } := by rw [← columns_eq]
    rw [columns_eq] at related
    cases related with
    | @some _ others rearranged =>
      rcases toJson_columns_cases field with replaced | ⟨before, after, kept⟩
      · have same : field.toJson = toJson { field with columns := some others } :=
          (congrArg toJson field_eq).trans (replaced columns others)
        rw [same]
        exact .same _
      · have here : field.toJson = _ := (congrArg toJson field_eq).trans (kept columns)
        rw [here, kept]
        refine .columns before after rearranged.perm fun document member => ?_
        obtain ⟨column, among, rfl⟩ := List.mem_map.mp member
        exact rearranged.hidden column (List.mem_append_left _ among)

section
variable {first second : FieldRule} (same : first.unordered = second.unordered)
include same

theorem columnsOf_of_unordered (scope : FormScope) (name : String) (property : Property) :
    Alike (Labelled.Rel Column.Rearranged) (columnsOf scope name property first)
      (columnsOf scope name property second) := by
  unfold columnsOf
  cases property.itemsReference with
  | none => exact .ok ⟨rfl, Column.rearranged_nil⟩
  | some reference =>
    have built := Column.build_of_unordered same (scope.root.child (fieldName name))
    dsimp only
    cases scope.schema.follow scope.name name reference with
    | error failure => exact .error failure
    | ok referenced => exact .ok (built referenced)

theorem withContent_of_unordered (scope : FormScope) (name : String) (property : Property)
    {heading : Labelled Field} (bare : heading.value.columns = none) :
    Alike (Labelled.Rel Rearranges) (withContent scope name property first heading)
      (withContent scope name property second heading) := by
  unfold withContent
  split
  · exact .ok ⟨rfl, rearranges_self bare⟩
  · next is_table =>
    refine (columnsOf_of_unordered same scope name property).map fun columns other alike => ?_
    refine ⟨congrArg (heading.labels ++ ·) alike.1, rfl, fun not_table => ?_, .some alike.2⟩
    exact absurd is_table not_table
  · exact .ok ⟨rfl, rearranges_self bare⟩

end

theorem heading_columns (scope : FormScope) (name : String) (property : Property)
    (type : FieldType) : (heading scope name property type).value.columns = none := by
  unfold heading
  cases type.isVisible <;> rfl

theorem build_of_unordered {first second : RuleSet} (same : first.unordered = second.unordered)
    (scope : FormScope) (entry : String × Property) :
    Alike (Option.Rel (Labelled.Rel Rearranges)) (build scope first entry)
      (build scope second entry) := by
  have rule_same : (first.fieldRule entry.1).unordered = (second.fieldRule entry.1).unordered := by
    rw [← RuleSet.fieldRule_unordered, same, RuleSet.fieldRule_unordered]
  have type_eq : first.fieldType? entry = second.fieldType? entry := by
    rw [← RuleSet.fieldType?_unordered, same, RuleSet.fieldType?_unordered]
  have extra_eq : (first.fieldRule entry.1).unordered.extra =
      (second.fieldRule entry.1).unordered.extra := congrArg FieldRule.extra rule_same
  cases typed : first.fieldType? entry with
  | none =>
    rw [build_of_untyped typed, build_of_untyped (type_eq ▸ typed)]
    exact .ok .none
  | some type =>
    rw [build_of_typed typed, build_of_typed (type_eq ▸ typed)]
    refine (withContent_of_unordered rule_same scope entry.1 entry.2
      (heading_columns scope entry.1 entry.2 type)).map fun field other alike => ?_
    have moved := alike.2.withExtra (first.fieldRule entry.1).extra
    exact .some ⟨alike.1, extra_eq ▸ moved⟩

end Field

namespace FormScope

theorem fields_of_unordered {first second : RuleSet} (same : first.unordered = second.unordered)
    (scope : FormScope) (properties : Properties) :
    Alike (List.Forall₂ (Labelled.Rel Field.Rearranges)) (scope.fields first properties)
      (scope.fields second properties) := by
  refine (Alike.mapM fun entry _ => Field.build_of_unordered same scope entry).map ?_
  exact fun fields others all => List.rel_filterMap (fun _ _ alike => alike) all

section
variable {fields others : List (Labelled Field)}
  (all : List.Forall₂ (Labelled.Rel Field.Rearranges) fields others)
include all

/-- Fields that correspond have the same name, so that each replaces what the other does. -/
theorem byName_of_forall₂ :
    List.Forall₂ Field.Rearranges (byName fields).values (byName others).values := by
  have named : Entries.Corresponds Field.Rearranges
      (fields.map fun field => (field.value.name, field.value))
      (others.map fun field => (field.value.name, field.value)) := by
    rw [Entries.Corresponds, List.forall₂_map_left_iff, List.forall₂_map_right_iff]
    exact all.imp fun field other alike => ⟨alike.2.name_eq, alike.2⟩
  unfold OrderedMap.values
  rw [List.forall₂_map_left_iff, List.forall₂_map_right_iff]
  exact (Entries.corresponds_insertAll .nil named).imp fun _ _ alike => alike.2

theorem labels_of_forall₂ (scope : FormScope) : scope.labels fields = scope.labels others := by
  have brought : fields.flatMap Labelled.labels = others.flatMap Labelled.labels := by
    induction all with
    | nil => rfl
    | cons alike _ ih => rw [List.flatMap_cons, List.flatMap_cons, alike.1, ih]
  rw [labels, labels, brought]

end

end FormScope

/-- Two forms that differ in nothing but the places of columns in their tables. -/
structure GeneratedForm.Rearranges (generated other : GeneratedForm) : Prop where
  definition : generated.definition = other.definition
  operation : generated.operation = other.operation
  title : generated.form.title = other.form.title
  sections : List.Forall₂ (fun part part' =>
    List.Forall₂ (fun field field' =>
      field.Rearranges field' ∧ Json.RearrangesColumns field.toJson field'.toJson)
      part.fields part'.fields) generated.form.sections other.form.sections
  locales : generated.locales = other.locales

namespace Schema

theorem flattenProperties_of_unordered {first second : RuleSet}
    (same : first.unordered = second.unordered) (schema : Schema) (name : String)
    (properties : Properties) :
    schema.flattenProperties name properties first =
      schema.flattenProperties name properties second := by
  have mode_eq : first.flattenMode? = second.flattenMode? := by
    rw [← RuleSet.flattenMode?_unordered, same, RuleSet.flattenMode?_unordered]
  rw [flattenProperties, flattenProperties, flattenProperty_eq, flattenProperty_eq, mode_eq]

/-- Rules that differ in the orders of columns alone either fail for the same reason, or give forms
in which only the columns of tables stand at other places. -/
theorem buildForm_of_unordered {first second : RuleSet}
    (same : first.unordered = second.unordered) (schema : Schema) (name : String)
    (definition : Definition) (operation : Operation) :
    Alike GeneratedForm.Rearranges (schema.buildForm name definition operation first)
      (schema.buildForm name definition operation second) := by
  unfold buildForm
  -- Flattening asks no column for its order, so both runs show the same properties.
  rw [flattenProperties_of_unordered same]
  cases schema.flattenProperties name definition.properties second with
  | error failure => exact .error failure
  | ok properties =>
    let scope := schema.formScope name definition operation
    refine (scope.fields_of_unordered same properties).bind fun fields others all => .ok ?_
    let submit := Field.submit (scope.root.child "save")
    have submit_bare : submit.columns = none := rfl
    have shown := List.rel_append (FormScope.byName_of_forall₂ all)
      (.cons (Field.rearranges_self submit_bare) .nil)
    exact {
      definition := rfl
      operation := rfl
      title := rfl
      sections := .cons (shown.imp fun _ _ alike => ⟨alike, alike.documents⟩) .nil
      locales := congrArg (LocaleMap.registerAll {}) (FormScope.labels_of_forall₂ all scope) }

/-- The amounts of a shipment come after its notes, and the total first. -/
def amountsLastRules : RuleSet :=
  { fields := .ofEntries
      [("lines",
        { columns := .ofEntries [("amount", { order := some (.ofInt 200) })]
          extraColumns := .ofEntries [("total", .ofEntries [("order", .number (.int 50))])] })] }

/-- The order among the free attributes is no number, so that every column has the default. -/
def declaredOrderRules : RuleSet :=
  { fields := .ofEntries
      [("lines",
        { columns := .ofEntries
            [("amount", { extra := .ofEntries [("order", .string "first")] })]
          extraColumns := .ofEntries [("total", {})] })] }

/-- The columns of the lines of a shipment before they are sorted. -/
def lineColumns (rules : RuleSet) : List (Labelled Column) :=
  Column.declared ((LocaleKey.root "Shipment" .create).child "lines") (rules.fieldRule "lines")
    ((shipments.resolve? "#/definitions/Line").getD {})

theorem shipmentForm_of_unordered :
    amountsLastRules.unordered = declaredOrderRules.unordered ∧
      (Column.sort ((lineColumns amountsLastRules).map Labelled.value)).map Column.name =
        ["total", "note", "amount"] ∧
      (Column.sort ((lineColumns declaredOrderRules).map Labelled.value)).map Column.name =
        ["amount", "note", "total"] ∧
      ∃ generated other,
        shipments.buildForm "Shipment" shipment .create amountsLastRules = .ok generated ∧
        shipments.buildForm "Shipment" shipment .create declaredOrderRules = .ok other ∧
        generated.Rearranges other := by
  have same : amountsLastRules.unordered = declaredOrderRules.unordered := by decide
  have alike := buildForm_of_unordered same shipments "Shipment" shipment .create
  obtain ⟨generated, done⟩ : ∃ generated,
      shipments.buildForm "Shipment" shipment .create amountsLastRules = .ok generated := ⟨_, rfl⟩
  obtain ⟨other, done', rearranges⟩ := alike.exists_of_ok done
  refine ⟨same, ?_, ?_, generated, other, done, done', rearranges⟩
  · have keys : (lineColumns amountsLastRules).map
        (fun column => (column.value.name, column.value.order.rank)) =
        [("amount", 0x4069000000000000), ("note", 0x4059000000000000),
         ("total", 0x4049000000000000)] := by
      decide +kernel
    rw [Column.names_sort, keys]
    simp [List.mergeSort]
  · have keys : (lineColumns declaredOrderRules).map
        (fun column => (column.value.name, column.value.order.rank)) =
        [("amount", 0x4059000000000000), ("note", 0x4059000000000000),
         ("total", 0x4059000000000000)] := by
      decide +kernel
    rw [Column.names_sort, keys]
    simp [List.mergeSort]

end Schema
end SchemaForms
