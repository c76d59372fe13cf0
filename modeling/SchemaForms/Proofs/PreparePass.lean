import SchemaForms.Proofs.Flatten
/-! The prepare pass treats each definition on its own. A definition is rewritten from the given
schema by its own flags, and the pass succeeds exactly when each of these rewritings does; neither
the order of the rules nor what else they name can be seen in the result. -/
namespace SchemaForms

namespace PrepareRules

/-- The fields of a definition's rules, in any order. -/
def Reorders (rules other : PrepareRules) : Prop :=
  rules.fields.entries.Perm other.fields.entries

/-- The rules of the pass with their definitions, and the fields of each, in any order. -/
def Permuted (rules other : OrderedMap PrepareRules) : Prop :=
  ∃ middle : Entries PrepareRules, rules.entries.Perm middle ∧
    List.Forall₂ (fun entry entry' => entry.1 = entry'.1 ∧ entry.2.Reorders entry'.2)
      middle other.entries

/-- The rules name the definition and flag the property. -/
def flagged (rules : OrderedMap PrepareRules) (definition property : String) : Bool :=
  (rules.get? definition).any (·.flattens property)

theorem flagged_eq_flattens (rules : OrderedMap PrepareRules) (definition : String) :
    flagged rules definition = ((rules.get? definition).getD {}).flattens := by
  funext property
  unfold flagged
  cases rules.get? definition <;> rfl

theorem Reorders.flattens_eq {rules other : PrepareRules} (reorders : rules.Reorders other) :
    rules.flattens = other.flattens := by
  funext property
  unfold flattens
  rw [OrderedMap.get?_of_perm reorders]

theorem Permuted.flagged_eq {rules other : OrderedMap PrepareRules}
    (permuted : Permuted rules other) : flagged rules = flagged other := by
  funext definition property
  unfold flagged
  have found := OrderedMap.rel_get?_of_reorders permuted definition
  generalize rules.get? definition = rules?, other.get? definition = other? at found
  cases found with
  | none => rfl
  | some reorders => rw [Option.any_some, Option.any_some, reorders.flattens_eq]

end PrepareRules

namespace Schema

open PrepareRules (flagged Permuted)

theorem prepareProperties_congr {rules other : PrepareRules}
    (same : rules.flattens = other.flattens) (schema : Schema) (name : String)
    (properties : Properties) :
    schema.prepareProperties name properties rules =
      schema.prepareProperties name properties other := by
  have step_eq : schema.prepareProperty name rules = schema.prepareProperty name other := by
    funext current entry
    rw [prepareProperty, prepareProperty, same]
  rw [prepareProperties, prepareProperties, step_eq]

/-- Without a flagged reference there is nothing to follow. -/
theorem prepareProperties_of_unflagged {rules : PrepareRules} {properties : Properties}
    (unflagged : ∀ entry ∈ properties.entries, entry.2.reference.isSome →
      rules.flattens entry.1 = false) (schema : Schema) (name : String) :
    schema.prepareProperties name properties rules = .ok properties := by
  refine foldlM_of_stays fun entry member => ?_
  unfold prepareProperty
  cases refers : entry.2.reference with
  | none => cases rules.flattens entry.1 <;> rfl
  | some reference => rw [unflagged entry member (by rw [refers]; rfl)]

/-- A definition as its own rules rewrite it, from the given schema. -/
def prepareAlone (schema : Schema) (rules : OrderedMap PrepareRules) (name : String)
    (definition : Definition) : Except FormError Definition :=
  (schema.prepareProperties name definition.properties ((rules.get? name).getD {})).map
    fun properties => { definition with properties }

theorem prepareAlone_congr {rules other : OrderedMap PrepareRules} {name : String}
    (same : flagged rules name = flagged other name) (schema : Schema) (definition : Definition) :
    schema.prepareAlone rules name definition = schema.prepareAlone other name definition := by
  rw [PrepareRules.flagged_eq_flattens, PrepareRules.flagged_eq_flattens] at same
  rw [prepareAlone, prepareAlone, prepareProperties_congr same]

theorem prepareAlone_of_unflagged {rules : OrderedMap PrepareRules} {name : String}
    {definition : Definition}
    (unflagged : ∀ entry ∈ definition.properties.entries, entry.2.reference.isSome →
      flagged rules name entry.1 = false) (schema : Schema) :
    schema.prepareAlone rules name definition = .ok definition := by
  rw [PrepareRules.flagged_eq_flattens] at unflagged
  rw [prepareAlone, prepareProperties_of_unflagged unflagged]
  rfl

theorem prepareDefinition_keys {schema before after : Schema} {entry : String × PrepareRules}
    (done : schema.prepareDefinition before entry = .ok after) :
    after.definitions.keys = before.definitions.keys := by
  unfold prepareDefinition at done
  cases found : schema.definitions.get? entry.1 with
  | none =>
    rw [found] at done
    cases done
    rfl
  | some definition =>
    rw [found] at done
    obtain ⟨properties, _, done⟩ := exists_of_bind_ok done
    cases done
    exact OrderedMap.keys_modify _ _ _

theorem prepareDefinitions_keys {schema before after : Schema} {entries : Entries PrepareRules}
    (done : entries.foldlM schema.prepareDefinition before = .ok after) :
    after.definitions.keys = before.definitions.keys := by
  induction entries generalizing before with
  | nil => cases done; rfl
  | cons entry rest ih =>
    rw [List.foldlM_cons] at done
    obtain ⟨next, first, done⟩ := exists_of_bind_ok done
    rw [ih done, prepareDefinition_keys first]

/-- A pass fails only where the rewriting of a definition fails, however far it has come. -/
theorem exists_prepareDefinitions {schema : Schema} {entries : Entries PrepareRules}
    (each : ∀ entry ∈ entries, ∀ definition, schema.definitions.get? entry.1 = some definition →
      ∃ properties,
        schema.prepareProperties entry.1 definition.properties entry.2 = .ok properties)
    (before : Schema) : ∃ after, entries.foldlM schema.prepareDefinition before = .ok after := by
  induction entries generalizing before with
  | nil => exact ⟨before, rfl⟩
  | cons entry rest ih =>
    rw [List.forall_mem_cons] at each
    have step : ∃ next, schema.prepareDefinition before entry = .ok next := by
      unfold prepareDefinition
      cases found : schema.definitions.get? entry.1 with
      | none => exact ⟨before, rfl⟩
      | some definition =>
        obtain ⟨properties, prepared⟩ := each.1 definition found
        simp only [prepared, bind, Except.bind]
        exact ⟨_, rfl⟩
    obtain ⟨next, first⟩ := step
    obtain ⟨after, later⟩ := ih each.2 next
    refine ⟨after, ?_⟩
    rw [List.foldlM_cons, first]
    exact later

theorem get?_prepare {schema prepared : Schema} {rules : OrderedMap PrepareRules}
    (done : schema.prepare rules = .ok prepared) {name : String} {definition : Definition}
    (found : schema.definitions.get? name = some definition) :
    ∃ rewritten, schema.prepareAlone rules name definition = .ok rewritten ∧
      prepared.definitions.get? name = some rewritten := by
  cases named : rules.get? name with
  | none =>
    have unflagged : ∀ entry ∈ definition.properties.entries, entry.2.reference.isSome →
        flagged rules name entry.1 = false := fun _ _ _ => by rw [flagged, named]; rfl
    have absent : name ∉ Entries.keys rules.entries := OrderedMap.get?_eq_none_iff.mp named
    exact ⟨definition, prepareAlone_of_unflagged unflagged schema,
      (prepareDefinitions_other done absent).trans found⟩
  | some own =>
    obtain ⟨properties, rewritten, after⟩ := prepare_named done named found
    refine ⟨_, ?_, after⟩
    rw [prepareAlone, named, Option.getD_some, rewritten]
    rfl

/-- The pass is the rewriting of every definition on its own. -/
theorem prepare_ok_iff {schema prepared : Schema} {rules : OrderedMap PrepareRules} :
    schema.prepare rules = .ok prepared ↔
      prepared.definitions.keys = schema.definitions.keys ∧
      ∀ name definition, schema.definitions.get? name = some definition →
        ∃ rewritten, schema.prepareAlone rules name definition = .ok rewritten ∧
          prepared.definitions.get? name = some rewritten := by
  constructor
  · exact fun done => ⟨prepareDefinitions_keys done, fun _ _ found => get?_prepare done found⟩
  · rintro ⟨keys_eq, each⟩
    have rewritings : ∀ entry ∈ rules.entries, ∀ definition,
        schema.definitions.get? entry.1 = some definition → ∃ properties,
          schema.prepareProperties entry.1 definition.properties entry.2 = .ok properties := by
      rintro ⟨name, own⟩ member definition found
      obtain ⟨rewritten, alone, _⟩ := each name definition found
      rw [prepareAlone, OrderedMap.mem_entries_iff.mp member, Option.getD_some] at alone
      obtain ⟨properties, prepared_eq, _⟩ := exists_of_map_ok alone
      exact ⟨properties, prepared_eq⟩
    obtain ⟨after, done⟩ := exists_prepareDefinitions rewritings schema
    have after_keys : after.definitions.keys = schema.definitions.keys :=
      prepareDefinitions_keys done
    have same : ∀ name, after.definitions.get? name = prepared.definitions.get? name := by
      intro name
      cases found : schema.definitions.get? name with
      | none =>
        have absent := OrderedMap.get?_eq_none_iff.mp found
        rw [OrderedMap.get?_eq_none_iff.mpr (after_keys ▸ absent),
          OrderedMap.get?_eq_none_iff.mpr (keys_eq ▸ absent)]
      | some definition =>
        obtain ⟨rewritten, alone, there⟩ := each name definition found
        obtain ⟨rewritten', alone', here⟩ := get?_prepare done found
        rw [alone, Except.ok.injEq] at alone'
        rw [here, there, alone']
    have definitions_eq : after.definitions = prepared.definitions :=
      OrderedMap.ext_of_get? (after_keys.trans keys_eq.symm) same
    have after_eq : after = prepared := congrArg Schema.mk definitions_eq
    rwa [after_eq] at done

/-- What the pass keeps of a schema, and on what a rewritten definition depends. -/
structure PreparedFrom (schema : Schema) (rules : OrderedMap PrepareRules)
    (prepared : Schema) : Prop where
  names : prepared.definitions.keys = schema.definitions.keys
  required : ∀ name, (prepared.definitions.get? name).map Definition.required =
    (schema.definitions.get? name).map Definition.required
  /-- A definition stays that is not named or of which no flagged property has a reference. -/
  unchanged : ∀ name definition, schema.definitions.get? name = some definition →
    (∀ entry ∈ definition.properties.entries, entry.2.reference.isSome →
      flagged rules name entry.1 = false) →
    prepared.definitions.get? name = some definition
  /-- The rewriting starts from the given definition and follows references in the given schema. -/
  own : ∀ name definition named, schema.definitions.get? name = some definition →
    rules.get? name = some named → ∃ properties,
      schema.prepareProperties name definition.properties named = .ok properties ∧
        prepared.definitions.get? name = some { definition with properties }
  /-- Other rules may name other definitions, before or after this one. -/
  alone : ∀ name (other : OrderedMap PrepareRules) (prepared' : Schema),
    other.get? name = rules.get? name → schema.prepare other = .ok prepared' →
    prepared'.definitions.get? name = prepared.definitions.get? name

theorem preparedFrom_of_ok {schema prepared : Schema} {rules : OrderedMap PrepareRules}
    (done : schema.prepare rules = .ok prepared) : schema.PreparedFrom rules prepared := by
  have names : prepared.definitions.keys = schema.definitions.keys := (prepare_ok_iff.mp done).1
  have missing {name : String} {result : Schema} (keys_eq : result.definitions.keys = _)
      (absent : schema.definitions.get? name = none) : result.definitions.get? name = none :=
    OrderedMap.get?_eq_none_iff.mpr (keys_eq ▸ OrderedMap.get?_eq_none_iff.mp absent)
  refine ⟨names, ?_, ?_, fun name definition named found has_rules =>
    prepare_named done has_rules found, ?_⟩
  · intro name
    cases found : schema.definitions.get? name with
    | none => rw [missing names found]
    | some definition =>
      obtain ⟨rewritten, alone, there⟩ := get?_prepare done found
      obtain ⟨properties, _, rfl⟩ := exists_of_map_ok alone
      rw [there]
      rfl
  · intro name definition found unflagged
    obtain ⟨rewritten, alone, there⟩ := get?_prepare done found
    rw [prepareAlone_of_unflagged unflagged, Except.ok.injEq] at alone
    rw [there, alone]
  · intro name other prepared' same done'
    cases found : schema.definitions.get? name with
    | none => rw [missing names found, missing (prepare_ok_iff.mp done').1 found]
    | some definition =>
      obtain ⟨rewritten, alone, there⟩ := get?_prepare done found
      obtain ⟨rewritten', alone', there'⟩ := get?_prepare done' found
      rw [prepareAlone, same, ← prepareAlone, alone, Except.ok.injEq] at alone'
      rw [there, there', alone']

theorem prepare_ok_of_permuted {schema prepared : Schema} {rules other : OrderedMap PrepareRules}
    (same : flagged rules = flagged other) (done : schema.prepare rules = .ok prepared) :
    schema.prepare other = .ok prepared := by
  rw [prepare_ok_iff] at done ⊢
  refine ⟨done.1, fun name definition found => ?_⟩
  rw [← prepareAlone_congr (congrFun same name)]
  exact done.2 name definition found

/-- Reordered rules fail together or prepare the same schema. What they prepare has the names and
required lists of the given schema, and each definition comes from the given schema and its own
rules. -/
theorem prepare_reordered (schema : Schema) (rules : OrderedMap PrepareRules) :
    (∀ other, Permuted rules other →
      (∃ failure failure', schema.prepare rules = .error failure ∧
        schema.prepare other = .error failure') ∨
      ∃ prepared, schema.prepare rules = .ok prepared ∧ schema.prepare other = .ok prepared) ∧
    ∀ prepared, schema.prepare rules = .ok prepared → schema.PreparedFrom rules prepared := by
  refine ⟨fun other permuted => ?_, fun prepared done => preparedFrom_of_ok done⟩
  have same : flagged rules = flagged other := permuted.flagged_eq
  cases done : schema.prepare rules with
  | ok prepared => exact .inr ⟨prepared, rfl, prepare_ok_of_permuted same done⟩
  | error failure =>
    cases done' : schema.prepare other with
    | ok prepared =>
      rw [prepare_ok_of_permuted same.symm done'] at done
      cases done
    | error failure' => exact .inl ⟨failure, failure', rfl, rfl⟩

/-- Parents and children refer to one another, and children to a home. -/
def families : Schema :=
  let parent : Properties := .ofEntries
    [("title", { type := some .string }), ("child", { reference := some "#/definitions/Child" })]
  let child : Properties := .ofEntries
    [("label", { type := some .string }), ("parent", { reference := some "#/definitions/Parent" }),
     ("home", { reference := some "#/definitions/Home" })]
  let home : Properties := .ofEntries [("street", { type := some .string })]
  { definitions := .ofEntries
      [("Parent", { properties := parent, required := ["title"] }),
       ("Child", { properties := child }), ("Home", { properties := home })] }

def familyRules : OrderedMap PrepareRules :=
  .ofEntries
    [("Parent", { fields := .ofEntries [("child", { flatten := true })] }),
     ("Child",
      { fields := .ofEntries [("parent", { flatten := true }), ("home", { flatten := true })] })]

def reorderedFamilyRules : OrderedMap PrepareRules :=
  .ofEntries
    [("Child",
      { fields := .ofEntries [("home", { flatten := true }), ("parent", { flatten := true })] }),
     ("Parent", { fields := .ofEntries [("child", { flatten := true })] })]

theorem familyRules_permuted : Permuted familyRules reorderedFamilyRules :=
  ⟨familyRules.entries.reverse, (List.reverse_perm _).symm,
    .cons ⟨rfl, List.Perm.swap _ _ _⟩ (.cons ⟨rfl, List.Perm.refl _⟩ .nil)⟩

/-- The child's parent is the given one, though the rules rewrite it too. -/
theorem prepare_families :
    Permuted familyRules reorderedFamilyRules ∧ ∃ prepared,
      families.prepare familyRules = .ok prepared ∧
      families.prepare reorderedFamilyRules = .ok prepared ∧
      families.PreparedFrom familyRules prepared ∧
      ((prepared.definitions.get? "Child").map fun child => child.properties.keys) =
        some ["label", "title", "child", "street"] := by
  obtain ⟨reordered, frame⟩ := prepare_reordered families familyRules
  refine ⟨familyRules_permuted, ?_⟩
  rcases reordered _ familyRules_permuted with ⟨_, _, failed, _⟩ | ⟨prepared, done, done'⟩
  · have succeeds : (families.prepare familyRules).isOk = true := by decide
    rw [failed] at succeeds
    cases succeeds
  · refine ⟨prepared, done, done', frame prepared done, ?_⟩
    have child_keys : (families.prepare familyRules).toOption.map (fun prepared =>
        (prepared.definitions.get? "Child").map fun child => child.properties.keys) =
          some (some ["label", "title", "child", "street"]) := by
      decide
    rw [done] at child_keys
    exact Option.some.inj child_keys

end Schema
end SchemaForms
