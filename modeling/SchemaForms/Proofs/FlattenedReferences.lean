import SchemaForms.Proofs.Flatten
/-! What flattening keeps of the properties it brings in. A referenced property is lost exactly when
its name is that of a property replaced in the same step or later and no reference after that one
supplies the name again. -/
namespace SchemaForms

/-- The attribute is found unchanged where it is carried. -/
def AttributeKept {α : Type} (found carried : Option α) : Prop :=
  ∀ value, carried = some value → found = some value

/-- Every attribute of the second property is found in the first; those of `items` are found one
level down. -/
def Property.Covers : (found carried : Property) → Prop
  | found, ⟨type, format, literals, items, reference, description⟩ =>
    AttributeKept found.type type ∧ AttributeKept found.format format ∧
      AttributeKept found.literals literals ∧ AttributeKept found.reference reference ∧
      AttributeKept found.description description ∧
      match items with
      | none => True
      | some items => ∃ below, found.items = some below ∧ below.Covers items

theorem attributeKept_orElse {α : Type} (top base : Option α) :
    AttributeKept (top <|> base) top := by
  rintro value rfl
  rfl

theorem Property.covers_self (property : Property) : property.Covers property := by
  obtain ⟨type, format, literals, items, reference, description⟩ := property
  unfold Covers
  refine ⟨fun _ => id, fun _ => id, fun _ => id, fun _ => id, fun _ => id, ?_⟩
  cases items with
  | none => trivial
  | some items => exact ⟨items, rfl, covers_self items⟩

theorem Property.overlay_covers (base top : Property) : (base.overlay top).Covers top := by
  obtain ⟨type, format, literals, items, reference, description⟩ := top
  unfold Covers overlay
  refine ⟨attributeKept_orElse _ _, attributeKept_orElse _ _, attributeKept_orElse _ _,
    attributeKept_orElse _ _, attributeKept_orElse _ _, ?_⟩
  cases items with
  | none => trivial
  | some items =>
    cases base.items with
    | none => exact ⟨items, rfl, covers_self items⟩
    | some below => exact ⟨below.overlay items, rfl, overlay_covers below items⟩

theorem FlattenMode.combine_covers (mode : FlattenMode) (current : Option Property)
    (landed : Property) : (mode.combine current landed).Covers landed := by
  cases mode with
  | prefixed => exact landed.covers_self
  | merge =>
    cases current with
    | none => exact landed.covers_self
    | some existing => exact existing.overlay_covers landed

namespace Schema

/-- In a run of steps, a property of that name is replaced and no later reference supplies the name
again. -/
def Loses (schema : Schema) (mode? : String → Option FlattenMode) (key : String) :
    Entries Property → Prop
  | [] => False
  | entry :: rest =>
    (schema.Replaces mode? entry key ∧
      ∀ later ∈ rest, schema.supplied? mode? later key = none) ∨ schema.Loses mode? key rest

theorem mem_keys_run {schema : Schema} {mode? : String → Option FlattenMode} {key : String}
    (entries : Entries Property) (properties : Properties) :
    key ∈ (entries.foldl (schema.inlineStep mode?) properties).keys ↔
      ¬ schema.Loses mode? key entries ∧
        (key ∈ properties.keys ∨
          ∃ entry ∈ entries, (schema.supplied? mode? entry key).isSome) := by
  induction entries generalizing properties with
  | nil => simp [Loses]
  | cons entry rest ih =>
    have none_later : (∀ later ∈ rest, schema.supplied? mode? later key = none) ↔
        ¬ ∃ later ∈ rest, (schema.supplied? mode? later key).isSome := by
      simp
    rw [List.foldl_cons, ih, mem_keys_inlineStep, Loses, none_later]
    simp only [List.mem_cons, exists_eq_or_imp]
    by_cases again : ∃ later ∈ rest, (schema.supplied? mode? later key).isSome
    · simp [again]
    · by_cases replaced : schema.Replaces mode? entry key
      · simp [again, replaced]
      · simp [again, replaced]

/-- Without a later supply a key is either lost or left alone. -/
theorem get?_run_of_not_supplied {schema : Schema} {mode? : String → Option FlattenMode}
    {key : String} {entries : Entries Property}
    (supplied : ∀ entry ∈ entries, schema.supplied? mode? entry key = none)
    (kept : ¬ schema.Loses mode? key entries) (properties : Properties) :
    (entries.foldl (schema.inlineStep mode?) properties).get? key = properties.get? key := by
  induction entries generalizing properties with
  | nil => rfl
  | cons entry rest ih =>
    rw [List.forall_mem_cons] at supplied
    rw [Loses, not_or] at kept
    have stays : ¬ schema.Replaces mode? entry key :=
      fun replaces => kept.1 ⟨replaces, supplied.2⟩
    rw [List.foldl_cons, ih supplied.2 kept.2, get?_inlineStep_of_not_supplied stays supplied.1]

/-- The name is a key of the result, and every attribute is found there unless a later reference
supplies the name too. -/
def Keeps (schema : Schema) (mode? : String → Option FlattenMode) (later : Entries Property)
    (result : Properties) (name : String) (attributes : Property) : Prop :=
  name ∈ result.keys ∧
    ((∀ entry ∈ later, schema.supplied? mode? entry name = none) →
      ∃ found, result.get? name = some found ∧ found.Covers attributes)

/-- A pass keeps each property that it merges in, unless the name is lost in that step or later. -/
def KeepsReferenced (schema : Schema) (mode? : String → Option FlattenMode)
    (properties result : Properties) : Prop :=
  ∀ earlier owner later referenced name attributes,
    properties.entries = earlier ++ owner :: later →
    schema.inlined? mode? owner = some (.merge, referenced) →
    referenced.get? name = some attributes →
      (schema.Keeps mode? later result name attributes ↔
        ¬ schema.Loses mode? name (owner :: later))

theorem keepsReferenced_of_ok {schema : Schema} {definition : String}
    {mode? : String → Option FlattenMode} {properties result : Properties}
    (done : properties.entries.foldlM (schema.inlineProperty definition mode?) properties =
      .ok result) : schema.KeepsReferenced mode? properties result := by
  intro earlier owner later referenced name attributes entries_eq inlined carried
  have supplied : schema.supplied? mode? owner name = some attributes := by
    rw [Schema.supplied?, inlined, Option.bind_some, FlattenMode.supplied?_merge, carried]
  have result_eq := inlineAll_of_ok done
  rw [entries_eq, List.foldl_append] at result_eq
  generalize earlier.foldl (schema.inlineStep mode?) properties = before at result_eq
  have present : name ∈ result.keys ↔ ¬ schema.Loses mode? name (owner :: later) := by
    rw [result_eq, mem_keys_run]
    have some_supply : ∃ entry ∈ owner :: later, (schema.supplied? mode? entry name).isSome :=
      ⟨owner, List.mem_cons_self, by rw [supplied]; rfl⟩
    exact and_iff_left (.inr some_supply)
  refine ⟨fun keeps => present.mp keeps.1, fun kept => ⟨present.mpr kept, ?_⟩⟩
  intro none_later
  rw [Loses, not_or] at kept
  have stays : ¬ schema.Replaces mode? owner name := fun replaces => kept.1 ⟨replaces, none_later⟩
  rw [result_eq, List.foldl_cons, get?_run_of_not_supplied none_later kept.2,
    get?_inlineStep_of_supplied stays inlined supplied]
  exact ⟨_, rfl, FlattenMode.combine_covers _ _ _⟩

/-- Flattening for a form, and each definition that the prepare pass rewrites, keeps a referenced
property exactly when its name is not lost. -/
theorem flatten_keepsReferenced (schema : Schema) :
    (∀ definition properties rules flattened,
      schema.flattenProperties definition properties rules = .ok flattened →
      schema.KeepsReferenced rules.flattenMode? properties flattened) ∧
    ∀ rules prepared, schema.prepare rules = .ok prepared →
      ∀ name named definition, rules.get? name = some named →
        schema.definitions.get? name = some definition →
        ∃ rewritten, prepared.definitions.get? name = some rewritten ∧
          schema.KeepsReferenced named.flattenMode? definition.properties
            rewritten.properties := by
  refine ⟨fun definition properties rules flattened done => ?_, ?_⟩
  · rw [flattenProperties, flattenProperty_eq] at done
    exact keepsReferenced_of_ok done
  · intro rules prepared done name named definition has_rules found
    obtain ⟨properties, rewritten, after⟩ := prepare_named done has_rules found
    rw [prepareProperties, prepareProperty_eq] at rewritten
    exact ⟨_, after, keepsReferenced_of_ok rewritten⟩

/-- A customer has a street, and an address of which one part is named like the whole. -/
def customers : Schema :=
  let address : Properties := .ofEntries
    [("address", { type := some .string }), ("street", { description := some "Street, number" })]
  let customer : Properties := .ofEntries
    [("street", { type := some .string }),
     ("address", { reference := some "#/definitions/Address" })]
  { definitions := .ofEntries
      [("Customer", { properties := customer }), ("Address", { properties := address })] }

def customerProperties : Properties :=
  (customers.resolve? "#/definitions/Customer").getD {}

def addressProperties : Properties :=
  (customers.resolve? "#/definitions/Address").getD {}

def addressRules : RuleSet :=
  { fields := .ofEntries [("address", { flatten := true })] }

theorem flattenProperties_customer :
    customers.flattenProperties "Customer" customerProperties addressRules =
      .ok (.ofEntries
        [("street", { type := some .string, description := some "Street, number" })]) := by
  decide

theorem flatten_customer :
    ∃ flattened,
      customers.flattenProperties "Customer" customerProperties addressRules = .ok flattened ∧
      customers.KeepsReferenced addressRules.flattenMode? customerProperties flattened :=
  ⟨_, flattenProperties_customer,
    (flatten_keepsReferenced customers).1 _ _ _ _ flattenProperties_customer⟩

/-- The address of the address is merged in and then removed in place of the reference. -/
theorem flatten_customer_loses_address :
    customers.inlined? addressRules.flattenMode?
        ("address", { reference := some "#/definitions/Address" }) =
      some (.merge, addressProperties) ∧
    "address" ∈ addressProperties.keys ∧
    ∃ flattened,
      customers.flattenProperties "Customer" customerProperties addressRules = .ok flattened ∧
      "address" ∉ flattened.keys := by
  have inlined : customers.inlined? addressRules.flattenMode?
      ("address", { reference := some "#/definitions/Address" }) =
        some (.merge, addressProperties) := by
    decide
  exact ⟨inlined, by decide, _, flattenProperties_customer, by decide⟩

end Schema
end SchemaForms
