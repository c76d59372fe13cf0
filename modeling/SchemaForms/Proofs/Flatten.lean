import SchemaForms.Flatten
import SchemaForms.Proofs.OrderedMap
import SchemaForms.Proofs.Traversal
/-! What a pass that follows references does to a property map, seen through one key at a time. The
prepare pass and the pass of a form differ only in which properties they replace, and how. -/
namespace SchemaForms

namespace FlattenMode

/-- The key under which a referenced property lands. -/
def key : FlattenMode → (owner name : String) → String
  | .merge, _, name => name
  | .prefixed, owner, name => owner ++ "." ++ name

theorem key_injective (mode : FlattenMode) (owner : String) :
    Function.Injective (mode.key owner) := by
  intro name other same
  cases mode with
  | merge => exact same
  | prefixed =>
    have lists := congrArg String.toList same
    simp only [key, String.toList_append, List.append_cancel_left_eq] at lists
    exact String.toList_inj.mp lists

/-- What stands under a key once a referenced property has landed there. -/
def combine : FlattenMode → Option Property → Property → Property
  | .merge, some existing, referenced => existing.overlay referenced
  | _, _, referenced => referenced

theorem place_eq (mode : FlattenMode) (owner : String) (properties : Properties)
    (entry : String × Property) :
    mode.place owner properties entry =
      properties.upsert (mode.key owner entry.1) (mode.combine · entry.2) := by
  cases mode with
  | merge =>
    apply OrderedMap.ext
    refine congrArg (Entries.upsert entry.1 · properties.entries) ?_
    funext current
    cases current <;> rfl
  | prefixed => rfl

/-- The referenced property that lands under a key. -/
def supplied? (mode : FlattenMode) (owner : String) (referenced : Properties) (key : String) :
    Option Property :=
  Entries.get? (referenced.entries.map fun entry => (mode.key owner entry.1, entry.2)) key

theorem supplied?_merge (owner : String) (referenced : Properties) (key : String) :
    merge.supplied? owner referenced key = referenced.get? key := by
  have entries_eq : (referenced.entries.map fun entry => (merge.key owner entry.1, entry.2)) =
      referenced.entries := List.map_id _
  rw [supplied?, entries_eq]
  rfl

/-- A key that a reference supplies holds what lands there; the other keys are untouched. -/
theorem get?_foldl_place (mode : FlattenMode) (owner : String) (referenced : Entries Property)
    (nodup : (Entries.keys referenced).Nodup) (properties : Properties) (key : String) :
    (referenced.foldl (mode.place owner) properties).get? key =
      match Entries.get? (referenced.map fun entry => (mode.key owner entry.1, entry.2)) key with
      | none => properties.get? key
      | some landed => some (mode.combine (properties.get? key) landed) := by
  induction referenced generalizing properties with
  | nil => rfl
  | cons entry rest ih =>
    obtain ⟨name, property⟩ := entry
    rw [Entries.keys_cons, List.nodup_cons] at nodup
    rw [List.foldl_cons, ih nodup.2, place_eq, List.map_cons, Entries.get?_cons,
      OrderedMap.get?_upsert]
    by_cases here : mode.key owner name = key
    · subst here
      have absent : Entries.get? (rest.map fun entry => (mode.key owner entry.1, entry.2))
          (mode.key owner name) = none := by
        rw [Entries.get?_eq_none_iff]
        intro member
        simp only [Entries.keys, List.map_map, List.mem_map, Function.comp_apply] at member
        obtain ⟨⟨later, _⟩, later_mem, same⟩ := member
        have name_eq := mode.key_injective owner same
        exact nodup.1 (name_eq ▸ Entries.mem_keys_of_mem later_mem)
      rw [absent, if_pos rfl, if_pos rfl]
    · rw [if_neg here, if_neg here]

end FlattenMode

/-- The replaced property is gone, whatever its reference supplies. -/
theorem Properties.get?_inline (properties : Properties) (mode : FlattenMode) (owner : String)
    (referenced : Properties) (key : String) :
    (properties.inline mode owner referenced).get? key =
      if owner = key then none
      else match mode.supplied? owner referenced key with
        | none => properties.get? key
        | some landed => some (mode.combine (properties.get? key) landed) := by
  rw [inline, OrderedMap.get?_erase,
    mode.get?_foldl_place owner referenced.entries referenced.nodup]
  rfl

/-- How the rules of a form replace a property by its reference, if they do. -/
def RuleSet.flattenMode? (rules : RuleSet) (property : String) : Option FlattenMode :=
  ((rules.field? property).filter FieldRule.flatten).map fun rule =>
    if rule.prefixed then .prefixed else .merge

/-- The prepare pass merges. -/
def PrepareRules.flattenMode? (rules : PrepareRules) (property : String) : Option FlattenMode :=
  if rules.flattens property then some .merge else none

namespace Schema

/-- One step of either pass. -/
def inlineProperty (schema : Schema) (definition : String) (mode? : String → Option FlattenMode)
    (properties : Properties) (entry : String × Property) : Except FormError Properties :=
  match mode? entry.1, entry.2.reference with
  | some mode, some reference => schema.inlineReference definition properties mode entry.1 reference
  | _, _ => .ok properties

theorem flattenProperty_eq (schema : Schema) (definition : String) (rules : RuleSet) :
    schema.flattenProperty definition rules =
      schema.inlineProperty definition rules.flattenMode? := by
  funext properties entry
  unfold flattenProperty inlineProperty RuleSet.flattenMode?
  cases (rules.field? entry.1).filter FieldRule.flatten <;> cases entry.2.reference <;> rfl

theorem prepareProperty_eq (schema : Schema) (definition : String) (rules : PrepareRules) :
    schema.prepareProperty definition rules =
      schema.inlineProperty definition rules.flattenMode? := by
  funext properties entry
  unfold prepareProperty inlineProperty PrepareRules.flattenMode?
  cases rules.flattens entry.1 <;> cases entry.2.reference <;> rfl

/-- The properties that take the place of a replaced property. -/
def inlined? (schema : Schema) (mode? : String → Option FlattenMode) (entry : String × Property) :
    Option (FlattenMode × Properties) :=
  match mode? entry.1, entry.2.reference with
  | some mode, some reference => (schema.resolve? reference).map (mode, ·)
  | _, _ => none

theorem inlined?_eq_some_iff {schema : Schema} {mode? : String → Option FlattenMode}
    {entry : String × Property} {mode : FlattenMode} {referenced : Properties} :
    schema.inlined? mode? entry = some (mode, referenced) ↔
      mode? entry.1 = some mode ∧
        ∃ reference, entry.2.reference = some reference ∧
          schema.resolve? reference = some referenced := by
  unfold inlined?
  cases mode? entry.1 <;> cases entry.2.reference <;> simp [and_comm]

/-- One step when no reference fails. -/
def inlineStep (schema : Schema) (mode? : String → Option FlattenMode) (properties : Properties)
    (entry : String × Property) : Properties :=
  match schema.inlined? mode? entry with
  | none => properties
  | some (mode, referenced) => properties.inline mode entry.1 referenced

theorem inlineStep_of_ok {schema : Schema} {definition : String}
    {mode? : String → Option FlattenMode} {properties next : Properties}
    {entry : String × Property}
    (done : schema.inlineProperty definition mode? properties entry = .ok next) :
    next = schema.inlineStep mode? properties entry := by
  unfold inlineProperty at done
  unfold inlineStep inlined?
  cases mode_eq : mode? entry.1 with
  | none =>
    rw [mode_eq] at done
    cases done
    rfl
  | some mode =>
    cases reference_eq : entry.2.reference with
    | none =>
      rw [mode_eq, reference_eq] at done
      cases done
      rfl
    | some reference =>
      rw [mode_eq, reference_eq] at done
      cases resolved : schema.resolve? reference with
      | none => simp [inlineReference, follow, resolved, Except.map] at done
      | some referenced =>
        simp only [inlineReference, follow, resolved, Except.map, Except.ok.injEq] at done
        simp only [resolved, Option.map_some]
        exact done.symm

/-- A pass that succeeds is a run of its steps. -/
theorem inlineAll_of_ok {schema : Schema} {definition : String}
    {mode? : String → Option FlattenMode} {entries : Entries Property}
    {properties result : Properties}
    (done : entries.foldlM (schema.inlineProperty definition mode?) properties = .ok result) :
    result = entries.foldl (schema.inlineStep mode?) properties := by
  induction entries generalizing properties with
  | nil => cases done; rfl
  | cons entry rest ih =>
    rw [List.foldlM_cons] at done
    obtain ⟨next, first, done⟩ := exists_of_bind_ok done
    rw [List.foldl_cons, ← inlineStep_of_ok first]
    exact ih done

/-- What the reference of a replaced property supplies under a key. -/
def supplied? (schema : Schema) (mode? : String → Option FlattenMode) (entry : String × Property)
    (key : String) : Option Property :=
  (schema.inlined? mode? entry).bind fun inlining => inlining.1.supplied? entry.1 inlining.2 key

/-- The property of that name is replaced by its reference. -/
def Replaces (schema : Schema) (mode? : String → Option FlattenMode) (entry : String × Property)
    (key : String) : Prop :=
  entry.1 = key ∧ (schema.inlined? mode? entry).isSome

theorem get?_inlineStep_of_replaces {schema : Schema} {mode? : String → Option FlattenMode}
    {entry : String × Property} {key : String} (replaces : schema.Replaces mode? entry key)
    (properties : Properties) : (schema.inlineStep mode? properties entry).get? key = none := by
  obtain ⟨inlining, found⟩ := Option.isSome_iff_exists.mp replaces.2
  simp only [inlineStep, found]
  rw [Properties.get?_inline, if_pos replaces.1]

theorem get?_inlineStep_of_supplied {schema : Schema} {mode? : String → Option FlattenMode}
    {entry : String × Property} {key : String} (stays : ¬ schema.Replaces mode? entry key)
    {mode : FlattenMode} {referenced : Properties} {landed : Property}
    (inlined : schema.inlined? mode? entry = some (mode, referenced))
    (supplied : schema.supplied? mode? entry key = some landed) (properties : Properties) :
    (schema.inlineStep mode? properties entry).get? key =
      some (mode.combine (properties.get? key) landed) := by
  have differs : entry.1 ≠ key := fun same => stays ⟨same, by rw [inlined]; rfl⟩
  simp only [Schema.supplied?, inlined, Option.bind_some] at supplied
  simp only [inlineStep, inlined]
  rw [Properties.get?_inline, if_neg differs, supplied]

theorem get?_inlineStep_of_not_supplied {schema : Schema} {mode? : String → Option FlattenMode}
    {entry : String × Property} {key : String} (stays : ¬ schema.Replaces mode? entry key)
    (supplied : schema.supplied? mode? entry key = none) (properties : Properties) :
    (schema.inlineStep mode? properties entry).get? key = properties.get? key := by
  cases inlined : schema.inlined? mode? entry with
  | none => simp only [inlineStep, inlined]
  | some inlining =>
    have differs : entry.1 ≠ key := fun same => stays ⟨same, by rw [inlined]; rfl⟩
    simp only [Schema.supplied?, inlined, Option.bind_some] at supplied
    simp only [inlineStep, inlined]
    rw [Properties.get?_inline, if_neg differs, supplied]

theorem mem_keys_inlineStep {schema : Schema} {mode? : String → Option FlattenMode}
    {properties : Properties} {entry : String × Property} {key : String} :
    key ∈ (schema.inlineStep mode? properties entry).keys ↔
      ¬ schema.Replaces mode? entry key ∧
        (key ∈ properties.keys ∨ (schema.supplied? mode? entry key).isSome) := by
  rw [← OrderedMap.isSome_get?_iff, ← OrderedMap.isSome_get?_iff]
  by_cases replaces : schema.Replaces mode? entry key
  · simp [get?_inlineStep_of_replaces replaces, replaces]
  · cases supplied : schema.supplied? mode? entry key with
    | none => simp [get?_inlineStep_of_not_supplied replaces supplied, replaces]
    | some landed =>
      obtain ⟨inlining, inlined, _⟩ := Option.bind_eq_some_iff.mp supplied
      simp [get?_inlineStep_of_supplied replaces inlined supplied, replaces]

theorem prepareDefinition_other {schema before after : Schema} {name other : String}
    {rules : PrepareRules} (done : schema.prepareDefinition before (name, rules) = .ok after)
    (differs : name ≠ other) :
    after.definitions.get? other = before.definitions.get? other := by
  unfold prepareDefinition at done
  cases found : schema.definitions.get? name with
  | none =>
    rw [found] at done
    cases done
    rfl
  | some definition =>
    rw [found] at done
    obtain ⟨properties, _, done⟩ := exists_of_bind_ok done
    cases done
    rw [OrderedMap.get?_modify, if_neg differs]

theorem prepareDefinition_same {schema before after : Schema} {name : String}
    {rules : PrepareRules} {definition : Definition}
    (done : schema.prepareDefinition before (name, rules) = .ok after)
    (found : schema.definitions.get? name = some definition) :
    ∃ properties, schema.prepareProperties name definition.properties rules = .ok properties ∧
      after.definitions.get? name =
        (before.definitions.get? name).map fun old => { old with properties } := by
  unfold prepareDefinition at done
  rw [found] at done
  obtain ⟨properties, prepared, done⟩ := exists_of_bind_ok done
  cases done
  refine ⟨properties, prepared, ?_⟩
  rw [OrderedMap.get?_modify, if_pos rfl]

theorem prepareDefinitions_other {schema before after : Schema} {entries : Entries PrepareRules}
    (done : entries.foldlM schema.prepareDefinition before = .ok after) {name : String}
    (absent : name ∉ Entries.keys entries) :
    after.definitions.get? name = before.definitions.get? name := by
  induction entries generalizing before with
  | nil => cases done; rfl
  | cons entry rest ih =>
    rw [Entries.keys_cons, List.mem_cons, not_or] at absent
    rw [List.foldlM_cons] at done
    obtain ⟨next, first, done⟩ := exists_of_bind_ok done
    rw [ih done absent.2, prepareDefinition_other first (Ne.symm absent.1)]

theorem prepareDefinitions_named {schema before after : Schema} {entries : Entries PrepareRules}
    (done : entries.foldlM schema.prepareDefinition before = .ok after)
    (nodup : (Entries.keys entries).Nodup) {name : String} {rules : PrepareRules}
    {definition : Definition} (named : Entries.get? entries name = some rules)
    (found : schema.definitions.get? name = some definition) :
    ∃ properties, schema.prepareProperties name definition.properties rules = .ok properties ∧
      after.definitions.get? name =
        (before.definitions.get? name).map fun old => { old with properties } := by
  induction entries generalizing before with
  | nil => cases named
  | cons entry rest ih =>
    obtain ⟨first_name, first_rules⟩ := entry
    rw [Entries.keys_cons, List.nodup_cons] at nodup
    rw [List.foldlM_cons] at done
    obtain ⟨next, first, done⟩ := exists_of_bind_ok done
    rw [Entries.get?_cons] at named
    by_cases here : first_name = name
    · subst here
      rw [if_pos rfl, Option.some.injEq] at named
      subst named
      rw [prepareDefinitions_other done nodup.1]
      exact prepareDefinition_same first found
    · rw [if_neg here] at named
      rw [← prepareDefinition_other first here]
      exact ih done nodup.2 named

/-- A definition that the prepare rules name is rewritten from the given schema alone. -/
theorem prepare_named {schema prepared : Schema} {rules : OrderedMap PrepareRules}
    (done : schema.prepare rules = .ok prepared) {name : String} {named : PrepareRules}
    {definition : Definition} (has_rules : rules.get? name = some named)
    (found : schema.definitions.get? name = some definition) :
    ∃ properties, schema.prepareProperties name definition.properties named = .ok properties ∧
      prepared.definitions.get? name = some { definition with properties } := by
  obtain ⟨properties, rewritten, after⟩ :=
    prepareDefinitions_named done rules.nodup has_rules found
  exact ⟨properties, rewritten, by rw [after, found]; rfl⟩

end Schema
end SchemaForms
