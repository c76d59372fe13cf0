import SchemaForms.Proofs.FormFields
import SchemaForms.Proofs.RuleLocality
import SchemaForms.Proofs.Replacements
/-! Which part of a schema can reach a form: the definition, what its references name, and what the
items among all these name. Tables are the only second step, so cycles are no exception. -/
namespace SchemaForms

namespace Property

theorem reference_overlay (base top : Property) :
    (base.overlay top).reference = top.reference.or base.reference := by
  obtain ⟨_, _, _, _, reference, _⟩ := top
  unfold overlay
  cases reference <;> rfl

theorem itemsReference_overlay (base top : Property) :
    (base.overlay top).itemsReference = top.itemsReference.or base.itemsReference := by
  obtain ⟨_, _, _, items, _, _⟩ := top
  unfold overlay itemsReference
  cases items with
  | none => cases base.items <;> rfl
  | some items =>
    cases base.items with
    | none => exact Option.or_none.symm
    | some below => exact reference_overlay below items

end Property

namespace Properties

/-- The items of the properties refer only to these. -/
def ItemsWithin (properties : Properties) (references : List String) : Prop :=
  ∀ key property, properties.get? key = some property →
    ∀ reference, property.itemsReference = some reference → reference ∈ references

theorem itemsWithin_of_mem {properties : Properties} {references : List String}
    (within : ∀ entry ∈ properties.entries, ∀ reference,
      entry.2.itemsReference = some reference → reference ∈ references) :
    properties.ItemsWithin references :=
  fun _ _ found => within _ (OrderedMap.mem_entries_iff.mpr found)

end Properties

namespace FlattenMode

theorem combine_itemsReference {mode : FlattenMode} {current : Option Property}
    {landed : Property} {reference : String}
    (refers : (mode.combine current landed).itemsReference = some reference) :
    landed.itemsReference = some reference ∨
      ∃ existing, current = some existing ∧ existing.itemsReference = some reference := by
  cases mode with
  | prefixed => exact .inl refers
  | merge =>
    cases current with
    | none => exact .inl refers
    | some existing =>
      rw [combine, Property.itemsReference_overlay] at refers
      rcases Option.or_eq_some_iff.mp refers with top | ⟨_, below⟩
      · exact .inl top
      · exact .inr ⟨existing, rfl, below⟩

theorem exists_of_supplied {mode : FlattenMode} {owner key : String} {referenced : Properties}
    {landed : Property} (supplied : mode.supplied? owner referenced key = some landed) :
    ∃ name, (name, landed) ∈ referenced.entries := by
  obtain ⟨⟨name, property⟩, member, entry_eq⟩ := List.mem_map.mp (Entries.mem_of_get? supplied)
  cases entry_eq
  exact ⟨name, member⟩

end FlattenMode

namespace Schema

/-- The references that can be followed for the form of a definition with these properties: their
own, those of their items, and those of the items of the properties they refer to. -/
def consulted (schema : Schema) (properties : Properties) : List String :=
  properties.values.flatMap fun property =>
    property.reference.toList ++ property.itemsReference.toList ++
      (property.reference.bind schema.resolve?).toList.flatMap fun referenced =>
        referenced.values.filterMap Property.itemsReference

theorem reference_mem_consulted {schema : Schema} {properties : Properties}
    {entry : String × Property} (member : entry ∈ properties.entries) {reference : String}
    (refers : entry.2.reference = some reference) : reference ∈ schema.consulted properties := by
  refine List.mem_flatMap.mpr ⟨entry.2, List.mem_map_of_mem member, ?_⟩
  simp [refers]

theorem itemsReference_mem_consulted {schema : Schema} {properties : Properties}
    {entry : String × Property} (member : entry ∈ properties.entries) {reference : String}
    (refers : entry.2.itemsReference = some reference) :
    reference ∈ schema.consulted properties := by
  refine List.mem_flatMap.mpr ⟨entry.2, List.mem_map_of_mem member, ?_⟩
  simp [refers]

theorem referenced_mem_consulted {schema : Schema} {properties referenced : Properties}
    {entry other : String × Property} (member : entry ∈ properties.entries) {reference : String}
    (refers : entry.2.reference = some reference)
    (resolved : schema.resolve? reference = some referenced) (among : other ∈ referenced.entries)
    {items : String} (items_refer : other.2.itemsReference = some items) :
    items ∈ schema.consulted properties := by
  refine List.mem_flatMap.mpr ⟨entry.2, List.mem_map_of_mem member, List.mem_append_right _ ?_⟩
  rw [refers, Option.bind_some, resolved]
  exact List.mem_flatMap.mpr ⟨referenced, List.mem_cons_self,
    List.mem_filterMap.mpr ⟨other.2, List.mem_map_of_mem among, items_refer⟩⟩

/-- A step brings in no items reference but those of the properties it inlines. -/
theorem inlineStep_itemsWithin {schema : Schema} {mode? : String → Option FlattenMode}
    {entry : String × Property} {references : List String}
    (brought : ∀ mode referenced, schema.inlined? mode? entry = some (mode, referenced) →
      referenced.ItemsWithin references)
    {properties : Properties} (within : properties.ItemsWithin references) :
    (schema.inlineStep mode? properties entry).ItemsWithin references := by
  intro key property found reference refers
  by_cases replaces : schema.Replaces mode? entry key
  · rw [get?_inlineStep_of_replaces replaces] at found
    cases found
  · cases supplied : schema.supplied? mode? entry key with
    | none =>
      rw [get?_inlineStep_of_not_supplied replaces supplied] at found
      exact within key property found reference refers
    | some landed =>
      obtain ⟨⟨mode, referenced⟩, inlined, landed_supplied⟩ := Option.bind_eq_some_iff.mp supplied
      rw [get?_inlineStep_of_supplied replaces inlined supplied] at found
      cases found
      -- A property laid over another keeps the other's items reference when it has none itself.
      rcases FlattenMode.combine_itemsReference refers with top | ⟨existing, present, below⟩
      · obtain ⟨name, member⟩ := FlattenMode.exists_of_supplied landed_supplied
        exact brought mode referenced inlined name landed (OrderedMap.mem_entries_iff.mp member)
          reference top
      · exact within key existing present reference below

theorem foldl_inlineStep_itemsWithin {schema : Schema} {mode? : String → Option FlattenMode}
    {entries : Entries Property} {references : List String}
    (brought : ∀ entry ∈ entries, ∀ mode referenced,
      schema.inlined? mode? entry = some (mode, referenced) → referenced.ItemsWithin references)
    {properties : Properties} (within : properties.ItemsWithin references) :
    (entries.foldl (schema.inlineStep mode?) properties).ItemsWithin references := by
  induction entries generalizing properties with
  | nil => exact within
  | cons entry rest ih =>
    rw [List.forall_mem_cons] at brought
    exact ih brought.2 (inlineStep_itemsWithin brought.1 within)

/-- The references of the flattened map that a table can follow are among the consulted ones. -/
theorem flattenProperties_itemsWithin {schema : Schema} {name : String}
    {properties flattened : Properties} {rules : RuleSet}
    (done : schema.flattenProperties name properties rules = .ok flattened) :
    flattened.ItemsWithin (schema.consulted properties) := by
  rw [flattenProperties, flattenProperty_eq] at done
  rw [inlineAll_of_ok done]
  apply foldl_inlineStep_itemsWithin
  · intro entry member mode referenced inlined
    obtain ⟨_, reference, refers, resolved⟩ := inlined?_eq_some_iff.mp inlined
    exact Properties.itemsWithin_of_mem fun other among items items_refer =>
      referenced_mem_consulted member refers resolved among items_refer
  · exact Properties.itemsWithin_of_mem fun entry member reference refers =>
      itemsReference_mem_consulted member refers

end Schema

namespace Field

theorem build_congr {scope : FormScope} {other : Schema} {entry : String × Property}
    (same : ∀ reference, entry.2.itemsReference = some reference →
      scope.schema.resolve? reference = other.resolve? reference) (rules : RuleSet) :
    build scope rules entry = build { scope with schema := other } rules entry := by
  have columns_eq (rule : FieldRule) : columnsOf scope entry.1 entry.2 rule =
      columnsOf { scope with schema := other } entry.1 entry.2 rule := by
    unfold columnsOf
    cases items_eq : entry.2.itemsReference with
    | none => rfl
    | some reference => simp only [Schema.follow_congr (same reference items_eq)]
  unfold build withContent
  simp only [columns_eq]
  rfl

end Field

theorem FormScope.fields_congr {scope : FormScope} {other : Schema} {properties : Properties}
    (same : ∀ entry ∈ properties.entries, ∀ reference, entry.2.itemsReference = some reference →
      scope.schema.resolve? reference = other.resolve? reference) (rules : RuleSet) :
    scope.fields rules properties = { scope with schema := other }.fields rules properties :=
  congrArg (Except.map _)
    (mapM_congr_of_mem fun entry member => Field.build_congr (same entry member) rules)

theorem Schema.buildForm_congr {first second : Schema} {definition : Definition}
    (same : ∀ reference ∈ first.consulted definition.properties,
      first.resolve? reference = second.resolve? reference)
    (name : String) (operation : Operation) (rules : RuleSet) :
    first.buildForm name definition operation rules =
      second.buildForm name definition operation rules := by
  have flattened_eq : first.flattenProperties name definition.properties rules =
      second.flattenProperties name definition.properties rules :=
    flattenProperties_congr (fun _ member reference refers =>
      same reference (reference_mem_consulted (List.mem_of_mem_filter member) refers)) name
  unfold buildForm
  rw [← flattened_eq]
  cases done : first.flattenProperties name definition.properties rules with
  | error failure => simp only [bind, Except.bind]
  | ok flattened =>
    -- Both schemas build their fields from this one map, whose tables follow consulted references.
    have within := flattenProperties_itemsWithin done
    have fields_eq : (first.formScope name definition operation).fields rules flattened =
        (second.formScope name definition operation).fields rules flattened :=
      FormScope.fields_congr (fun _ member reference refers =>
        same reference (within _ _ (OrderedMap.mem_entries_iff.mp member) reference refers)) rules
    unfold formScope at fields_eq
    simp only [bind, Except.bind, fields_eq]
    rfl

namespace Generator

/-- Two generators agree on all that a form can be made from. -/
structure AgreeOn (first second : Generator) (name : String) (operation : Operation) : Prop where
  rules : RuleBook.SameFor name operation first.rules second.rules
  definition : first.schema.definitions.get? name = second.schema.definitions.get? name
  references : ∀ definition, first.schema.definitions.get? name = some definition →
    ∀ reference ∈ first.schema.consulted definition.properties,
      first.schema.resolve? reference = second.schema.resolve? reference

/-- Nothing else in the schema or the rules can be told from the form, nor the order in which they
come. -/
theorem generateForm_local {first second : Generator} {name : String} {operation : Operation}
    (agree : AgreeOn first second name operation) :
    first.generateForm name operation = second.generateForm name operation := by
  have rules_same := agree.rules.definitionRules
  cases found : first.schema.definitions.get? name with
  | none =>
    rw [generateForm_of_unknown found, generateForm_of_unknown (agree.definition ▸ found)]
  | some definition =>
    have found' : second.schema.definitions.get? name = some definition :=
      agree.definition ▸ found
    cases skipped : (first.rules.definitionRules name).isSkipped with
    | true =>
      rw [generateForm_of_skipped found skipped,
        generateForm_of_skipped found' (rules_same.isSkipped_eq ▸ skipped)]
    | false =>
      rw [generateForm_of_shown found skipped,
        generateForm_of_shown found' (rules_same.isSkipped_eq ▸ skipped), build, build,
        rules_same.resolve_eq]
      refine congrArg (Except.map some) ?_
      cases (second.rules.definitionRules name).resolve operation with
      | error failure => rfl
      | ok rules =>
        exact Schema.buildForm_congr (agree.references definition found) name operation rules

/-- An order refers to itself, and its customer to orders. Products are out of its reach. -/
def shopDefinitions (product : Definition) : Entries Definition :=
  let rows (name : String) : Property :=
    { type := some .array, items := some { reference := some ("#/definitions/" ++ name) } }
  let order : Properties := .ofEntries
    [("number", { type := some .string }), ("parent", { reference := some "#/definitions/Order" }),
     ("customer", { reference := some "#/definitions/Customer" }), ("lines", rows "Line")]
  let line : Properties := .ofEntries
    [("amount", { type := some .integer, format := some .int32 }),
     ("product", { reference := some "#/definitions/Product" })]
  [("Order", { properties := order }),
   ("Customer", { properties := .ofEntries [("orders", rows "Order")] }),
   ("Line", { properties := line }), ("Product", product)]

def shopRules (update : Json) : Json :=
  .object
    [("fields", .object [("customer", .object [("flatten", .bool true)])]), ("update", update)]

def shop : Generator :=
  { schema := { definitions := .ofEntries (shopDefinitions {}) }
    rules := { entries := .ofEntries [("Order", shopRules (.object []))] } }

/-- The definitions stand the other way round, and the rules differ for products and updates, so
that only the form for updates fails. -/
def rearrangedShop : Generator :=
  let product : Definition := { properties := .ofEntries [("name", { type := some .string })] }
  let update : Json :=
    .object [("fields", .object [("number", .object [("type", .string "sketch")])])]
  { schema := { definitions := .ofEntries (shopDefinitions product).reverse }
    rules :=
      { entries := .ofEntries
          [("Product", .object [("skip", .bool true)]), ("Order", shopRules update)] } }

theorem shop_agreeOn : AgreeOn shop rearrangedShop "Order" .create where
  rules := by unfold RuleBook.SameFor; decide +kernel
  definition := by decide +kernel
  references := by
    intro definition found
    cases found
    decide +kernel

theorem rearrangedShop_local :
    AgreeOn shop rearrangedShop "Order" .create ∧
      shop.generateForm "Order" .create = rearrangedShop.generateForm "Order" .create ∧
      (rearrangedShop.generateForm "Order" .create).map
          (Option.map fun generated => generated.form.fields.map Field.name) =
        .ok (some ["number", "lines", "orders", "submit"]) ∧
      (shop.generateForm "Order" .update).isOk = true ∧
      (rearrangedShop.generateForm "Order" .update).isOk = false :=
  ⟨shop_agreeOn, generateForm_local shop_agreeOn, by decide +kernel, by decide +kernel,
    by decide +kernel⟩

end Generator
end SchemaForms
