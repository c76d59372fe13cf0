import SchemaForms.Proofs.Flatten
/-! Attributes laid over attributes. Layers can be combined before they are laid over a property, so
that several references that merge into one property act as a single layer. -/
namespace SchemaForms

namespace Property

/-- Descriptions of elements, of which either may be missing. -/
def overlayItems : (below above : Option Property) → Option Property
  | below, none => below
  | none, some items => some items
  | some below, some items => some (below.overlay items)

theorem overlay_eq (base top : Property) :
    base.overlay top =
      { type := top.type.or base.type
        format := top.format.or base.format
        literals := top.literals.or base.literals
        items := overlayItems base.items top.items
        reference := top.reference.or base.reference
        description := top.description.or base.description } := by
  obtain ⟨type, format, literals, items, reference, description⟩ := top
  unfold overlay
  simp only [Option.orElse_eq_orElse, Option.orElse_eq_or, mk.injEq, true_and, and_true]
  cases items <;> cases base.items <;> rfl

theorem empty_overlay (top : Property) : overlay {} top = top := by
  obtain ⟨type, format, literals, items, reference, description⟩ := top
  have items_eq : overlayItems none items = items := by cases items <;> rfl
  simp only [overlay_eq, items_eq, Option.or_none]

theorem overlay_empty (base : Property) : base.overlay {} = base := by
  obtain ⟨type, format, literals, items, reference, description⟩ := base
  simp only [overlay_eq, overlayItems, Option.none_or]

theorem overlay_assoc (base middle top : Property) :
    (base.overlay middle).overlay top = base.overlay (middle.overlay top) := by
  obtain ⟨type, format, literals, items, reference, description⟩ := top
  have items_assoc : overlayItems (overlayItems base.items middle.items) items =
      overlayItems base.items (overlayItems middle.items items) := by
    cases items with
    | none => rfl
    | some items =>
      cases middle.items with
      | none => cases base.items <;> rfl
      | some between =>
        cases base.items with
        | none => rfl
        | some below => exact congrArg some (overlay_assoc below between items)
  simp only [overlay_eq, items_assoc, Option.or_assoc]

theorem overlay_self (property : Property) : property.overlay property = property := by
  obtain ⟨type, format, literals, items, reference, description⟩ := property
  have items_self : overlayItems items items = items := by
    cases items with
    | none => rfl
    | some items => exact congrArg some (overlay_self items)
  simp only [overlay_eq, items_self, Option.or_self]

/-- Layers laid over one another in their order. -/
def combined (layers : List Property) : Property := layers.foldl overlay {}

theorem foldl_overlay (base : Property) (layers : List Property) :
    layers.foldl overlay base = base.overlay (combined layers) := by
  have associative : Std.Associative overlay := ⟨overlay_assoc⟩
  have regrouped := @List.foldl_assoc _ overlay _ layers base {}
  rwa [overlay_empty] at regrouped

/-- What layers make of a property. Where there is none yet they make one, unless there are no
layers either. -/
def layOver (current : Option Property) (layers : List Property) : Option Property :=
  if layers.isEmpty then current else some ((current.getD {}).overlay (combined layers))

theorem layOver_cons (current : Option Property) (layer : Property) (layers : List Property) :
    layOver current (layer :: layers) =
      layOver (some ((current.getD {}).overlay layer)) layers := by
  have combined_eq : combined (layer :: layers) = layer.overlay (combined layers) := by
    rw [combined, List.foldl_cons, empty_overlay, foldl_overlay]
  rw [layOver, List.isEmpty_cons, if_neg Bool.false_ne_true, combined_eq, ← overlay_assoc]
  cases layers with
  | nil => exact congrArg some (overlay_empty _)
  | cons => rfl

end Property

theorem FlattenMode.combine_merge (current : Option Property) (landed : Property) :
    merge.combine current landed = (current.getD {}).overlay landed := by
  cases current with
  | none => exact landed.empty_overlay.symm
  | some existing => rfl

namespace Schema

/-- The step for the entry does not remove the key, and what it puts there it merges in. -/
def OnlyMerges (schema : Schema) (mode? : String → Option FlattenMode) (key : String)
    (entry : String × Property) : Prop :=
  ¬ schema.Replaces mode? entry key ∧
    (mode? entry.1 = some .prefixed → schema.supplied? mode? entry key = none)

theorem get?_inlineStep_of_merges {schema : Schema} {mode? : String → Option FlattenMode}
    {entry : String × Property} {key : String} (merges : schema.OnlyMerges mode? key entry)
    {landed : Property} (supplied : schema.supplied? mode? entry key = some landed)
    (properties : Properties) :
    (schema.inlineStep mode? properties entry).get? key =
      some (((properties.get? key).getD {}).overlay landed) := by
  obtain ⟨⟨mode, referenced⟩, inlined, _⟩ := Option.bind_eq_some_iff.mp supplied
  have is_merge : mode = .merge := by
    cases mode with
    | merge => rfl
    | prefixed =>
      have flattens : mode? entry.1 = some .prefixed := (inlined?_eq_some_iff.mp inlined).1
      rw [merges.2 flattens] at supplied
      cases supplied
  subst is_merge
  rw [get?_inlineStep_of_supplied merges.1 inlined supplied, FlattenMode.combine_merge]

/-- What the references of replaced properties supply under a key, in their order. -/
def layers (schema : Schema) (mode? : String → Option FlattenMode) (key : String)
    (entries : Entries Property) : List Property :=
  entries.filterMap fun entry => schema.supplied? mode? entry key

/-- Steps that only merge lay the attributes they supply over what was there, combined in order. -/
theorem get?_run_of_merges {schema : Schema} {mode? : String → Option FlattenMode}
    {key : String} {entries : Entries Property}
    (merges : ∀ entry ∈ entries, schema.OnlyMerges mode? key entry) (properties : Properties) :
    (entries.foldl (schema.inlineStep mode?) properties).get? key =
      Property.layOver (properties.get? key) (schema.layers mode? key entries) := by
  induction entries generalizing properties with
  | nil => rfl
  | cons entry rest ih =>
    rw [List.forall_mem_cons] at merges
    rw [List.foldl_cons, ih merges.2]
    cases supplied : schema.supplied? mode? entry key with
    | none =>
      have layers_eq : schema.layers mode? key (entry :: rest) = schema.layers mode? key rest :=
        List.filterMap_cons_none supplied
      rw [layers_eq, get?_inlineStep_of_not_supplied merges.1.1 supplied]
    | some landed =>
      have layers_eq : schema.layers mode? key (entry :: rest) =
          landed :: schema.layers mode? key rest := List.filterMap_cons_some supplied
      rw [layers_eq, Property.layOver_cons, get?_inlineStep_of_merges merges.1 supplied]

/-- Wherever a pass has come: if the rest only merges into a key, what the rest supplies there is
combined first and then laid over what is there. -/
def LaysCombined (schema : Schema) (mode? : String → Option FlattenMode)
    (properties result : Properties) : Prop :=
  ∀ earlier later key, properties.entries = earlier ++ later →
    (∀ entry ∈ later, schema.OnlyMerges mode? key entry) →
    result.get? key =
      Property.layOver ((earlier.foldl (schema.inlineStep mode?) properties).get? key)
        (schema.layers mode? key later)

theorem laysCombined_of_ok {schema : Schema} {definition : String}
    {mode? : String → Option FlattenMode} {properties result : Properties}
    (done : properties.entries.foldlM (schema.inlineProperty definition mode?) properties =
      .ok result) : schema.LaysCombined mode? properties result := by
  intro earlier later key entries_eq merges
  rw [inlineAll_of_ok done, entries_eq, List.foldl_append, get?_run_of_merges merges]

end Schema

/-- Laying attributes over a property is an action of the attributes, which form a monoid, and to
repeat it changes nothing. In flattening and in the prepare pass, a property that several references
merge into ends up as if these had been combined in order and then laid over it. -/
theorem Property.overlay_action :
    (∀ base middle top : Property,
      (base.overlay middle).overlay top = base.overlay (middle.overlay top)) ∧
    (∀ property : Property, property.overlay {} = property ∧ overlay {} property = property) ∧
    (∀ base top : Property, (base.overlay top).overlay top = base.overlay top) ∧
    (∀ (schema : Schema) definition properties rules flattened,
      schema.flattenProperties definition properties rules = .ok flattened →
      schema.LaysCombined rules.flattenMode? properties flattened) ∧
    ∀ (schema : Schema) rules prepared, schema.prepare rules = .ok prepared →
      ∀ name named definition, rules.get? name = some named →
        schema.definitions.get? name = some definition →
        ∃ rewritten, prepared.definitions.get? name = some rewritten ∧
          schema.LaysCombined named.flattenMode? definition.properties rewritten.properties := by
  refine ⟨overlay_assoc, fun property => ⟨property.overlay_empty, property.empty_overlay⟩,
    fun base top => ?_, fun schema definition properties rules flattened done => ?_, ?_⟩
  · rw [overlay_assoc, overlay_self]
  · rw [Schema.flattenProperties, Schema.flattenProperty_eq] at done
    exact Schema.laysCombined_of_ok done
  · intro schema rules prepared done name named definition has_rules found
    obtain ⟨properties, rewritten, after⟩ := Schema.prepare_named done has_rules found
    rw [Schema.prepareProperties, Schema.prepareProperty_eq] at rewritten
    exact ⟨_, after, Schema.laysCombined_of_ok rewritten⟩

namespace Schema

/-- An account has tags. Its profile and its contract describe them further. -/
def accounts : Schema :=
  let account : Properties := .ofEntries
    [("tags", { type := some .array, items := some { type := some .string } }),
     ("profile", { reference := some "#/definitions/Profile" }),
     ("contract", { reference := some "#/definitions/Contract" })]
  let profile : Properties := .ofEntries
    [("tags", { items := some { format := some .date }, description := some "Labels" })]
  let contract : Properties := .ofEntries
    [("tags", { items := some { description := some "Tag" }, description := some "Tags" })]
  { definitions := .ofEntries
      [("Account", { properties := account }), ("Profile", { properties := profile }),
       ("Contract", { properties := contract })] }

def accountProperties : Properties := (accounts.resolve? "#/definitions/Account").getD {}

def accountRules : RuleSet :=
  { fields := .ofEntries [("profile", { flatten := true }), ("contract", { flatten := true })] }

def flattenedTags : Property :=
  { type := some .array
    items := some { type := some .string, format := some .date, description := some "Tag" }
    description := some "Tags" }

theorem flattenProperties_accounts :
    accounts.flattenProperties "Account" accountProperties accountRules =
      .ok (.ofEntries [("tags", flattenedTags)]) := by
  decide

theorem flattenedTags_combined :
    accounts.flattenProperties "Account" accountProperties accountRules =
        .ok (.ofEntries [("tags", flattenedTags)]) ∧
      (∀ entry ∈ accountProperties.entries,
        accounts.OnlyMerges accountRules.flattenMode? "tags" entry) ∧
      some flattenedTags =
        Property.layOver (accountProperties.get? "tags")
          (accounts.layers accountRules.flattenMode? "tags" accountProperties.entries) := by
  have only_merges : ∀ entry ∈ accountProperties.entries,
      accounts.OnlyMerges accountRules.flattenMode? "tags" entry := by
    unfold OnlyMerges Replaces
    decide
  obtain ⟨_, _, _, combines, _⟩ := Property.overlay_action
  exact ⟨flattenProperties_accounts, only_merges,
    combines accounts _ _ _ _ flattenProperties_accounts [] _ "tags" rfl only_merges⟩

end Schema
end SchemaForms
