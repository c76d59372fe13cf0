import SchemaForms.Proofs.FormFailures
import SchemaForms.Proofs.PreparePass
import SchemaForms.Proofs.RuleLookups
/-! The prepare pass against the pass of a form. For rules that merge the same properties both leave
the same properties, in the same order, or report the same reference. -/
namespace SchemaForms

/-- The rules of a form merge the properties that the prepare rules flag, and flatten no others. -/
structure RuleSet.MergesFlagged (rules : RuleSet) (flags : PrepareRules) : Prop where
  flatten : ∀ property, (rules.fieldRule property).flatten = flags.flattens property
  merge : ∀ property, flags.flattens property = true →
    (rules.fieldRule property).prefixed = false

theorem RuleSet.MergesFlagged.flattenMode?_eq {rules : RuleSet} {flags : PrepareRules}
    (merges : rules.MergesFlagged flags) : rules.flattenMode? = flags.flattenMode? := by
  funext property
  rw [RuleSet.flattenMode?_eq, merges.flatten, PrepareRules.flattenMode?]
  cases flagged : flags.flattens property with
  | false => rfl
  | true => rw [merges.merge property flagged]; rfl

/-- The flags as rules of a form. -/
def PrepareRules.asFormRules (flags : PrepareRules) : RuleSet :=
  { fields := flags.fields.mapValues fun rule => { flatten := rule.flatten } }

theorem PrepareRules.fieldRule_asFormRules (flags : PrepareRules) (property : String) :
    flags.asFormRules.fieldRule property = { flatten := flags.flattens property } := by
  unfold RuleSet.fieldRule RuleSet.field? asFormRules flattens
  rw [OrderedMap.get?_mapValues]
  cases flags.fields.get? property <;> rfl

theorem PrepareRules.mergesFlagged_asFormRules (flags : PrepareRules) :
    flags.asFormRules.MergesFlagged flags where
  flatten property := by rw [fieldRule_asFormRules]
  merge property _ := by rw [fieldRule_asFormRules]

namespace Schema

/-- Over one definition the passes are the same. -/
theorem prepareProperties_eq_flattenProperties {rules : RuleSet} {flags : PrepareRules}
    (merges : rules.MergesFlagged flags) (schema : Schema) (name : String)
    (properties : Properties) :
    schema.prepareProperties name properties flags =
      schema.flattenProperties name properties rules := by
  rw [prepareProperties, flattenProperties, prepareProperty_eq, flattenProperty_eq,
    merges.flattenMode?_eq]

/-- A flattening that fails names the definition that is flattened. -/
theorem exists_of_flattenProperties_error {schema : Schema} {name : String}
    {properties : Properties} {rules : RuleSet} {failure : FormError}
    (failed : schema.flattenProperties name properties rules = .error failure) :
    ∃ property reference, failure = .unresolvedReference name property reference := by
  rw [flattenProperties_error_iff] at failed
  obtain ⟨entry, _, _, reference, _, _, _, _, failure_eq⟩ := exists_mem_of_firstFailure failed
  exact ⟨entry.1, reference, failure_eq⟩

theorem prepareDefinition_error_iff {schema prepared : Schema} {entry : String × PrepareRules}
    {failure : FormError} :
    schema.prepareDefinition prepared entry = .error failure ↔
      ∃ definition, schema.definitions.get? entry.1 = some definition ∧
        schema.prepareProperties entry.1 definition.properties entry.2 = .error failure := by
  unfold prepareDefinition
  cases schema.definitions.get? entry.1 with
  | none => simp
  | some definition =>
    simp only [Option.some.injEq, exists_eq_left', bind, Except.bind]
    generalize schema.prepareProperties entry.1 definition.properties entry.2 = outcome
    cases outcome <;> simp [pure, Except.pure]

/-- The whole pass reports the first definition that fails. -/
theorem exists_of_prepare_error {schema : Schema} {rules : OrderedMap PrepareRules}
    {failure : FormError} (failed : schema.prepare rules = .error failure) :
    ∃ name flags definition property reference, rules.get? name = some flags ∧
      schema.definitions.get? name = some definition ∧
      schema.flattenProperties name definition.properties flags.asFormRules = .error failure ∧
      failure = .unresolvedReference name property reference := by
  have fails_alone : ∀ prepared entry failure,
      schema.prepareDefinition prepared entry = .error failure ↔ _ :=
    fun _ _ _ => prepareDefinition_error_iff
  obtain ⟨⟨name, flags⟩, member, definition, found, here⟩ :=
    exists_mem_of_firstFailure ((foldlM_error_iff fails_alone).mp failed)
  rw [prepareProperties_eq_flattenProperties flags.mergesFlagged_asFormRules] at here
  obtain ⟨property, reference, failure_eq⟩ := exists_of_flattenProperties_error here
  exact ⟨name, flags, definition, property, reference, OrderedMap.mem_entries_iff.mp member,
    found, here, failure_eq⟩

/-- A definition that is alone in the pass comes out as it is rewritten, or fails as that does. -/
theorem prepare_alone {schema : Schema} {name : String} {definition : Definition}
    (found : schema.definitions.get? name = some definition) (flags : PrepareRules) :
    (schema.prepare (.ofEntries [(name, flags)])).map (·.definitions.get? name) =
      (schema.prepareProperties name definition.properties flags).map fun properties =>
        some { definition with properties } := by
  have run : schema.prepare (.ofEntries [(name, flags)]) =
      schema.prepareDefinition schema (name, flags) := bind_pure _
  rw [run]
  cases rewritten : schema.prepareProperties name definition.properties flags with
  | error failure =>
    rw [prepareDefinition_error_iff.mpr ⟨definition, found, rewritten⟩]
    rfl
  | ok properties =>
    simp only [prepareDefinition, found, rewritten, bind, Except.bind]
    refine congrArg Except.ok ?_
    dsimp only
    rw [OrderedMap.get?_modify, if_pos rfl, found]
    rfl

/-- The prepare pass makes of a definition what flattening makes of its properties for a form whose
rules merge exactly the flagged properties, and if it is alone in the pass it also fails as this
flattening does. In a pass over several definitions another one may be reported in its place. -/
theorem prepare_flattens_alike {schema : Schema} {name : String} {definition : Definition}
    (found : schema.definitions.get? name = some definition) {rules : RuleSet}
    {flags : PrepareRules} (merges : rules.MergesFlagged flags) :
    let flattened := schema.flattenProperties name definition.properties rules
    (schema.prepare (.ofEntries [(name, flags)])).map (·.definitions.get? name) =
        flattened.map (fun properties => some { definition with properties }) ∧
      (∀ failure, flattened = .error failure →
        ∃ property reference, failure = .unresolvedReference name property reference) ∧
      ∀ pass, pass.get? name = some flags →
        (∃ prepared properties, schema.prepare pass = .ok prepared ∧
          flattened = .ok properties ∧
          prepared.definitions.get? name = some { definition with properties }) ∨
        ∃ failure, schema.prepare pass = .error failure ∧
          (flattened = .error failure ∨ ∃ other property reference, other ≠ name ∧
            failure = .unresolvedReference other property reference) := by
  intro flattened
  have same : schema.prepareProperties name definition.properties flags = flattened :=
    prepareProperties_eq_flattenProperties merges schema name definition.properties
  refine ⟨same ▸ prepare_alone found flags, fun failure failed =>
    exists_of_flattenProperties_error failed, fun pass named => ?_⟩
  cases outcome : schema.prepare pass with
  | ok prepared =>
    obtain ⟨properties, rewritten, after⟩ := prepare_named outcome named found
    exact .inl ⟨prepared, properties, rfl, same.symm.trans rewritten, after⟩
  | error failure =>
    refine .inr ⟨failure, rfl, ?_⟩
    obtain ⟨other, own, _, property, reference, has_rules, found', failed, failure_eq⟩ :=
      exists_of_prepare_error outcome
    by_cases at_name : other = name
    · subst at_name
      cases named.symm.trans has_rules
      cases found.symm.trans found'
      rw [← prepareProperties_eq_flattenProperties flags.mergesFlagged_asFormRules, same] at failed
      exact .inl failed
    · exact .inr ⟨other, property, reference, at_name, failure_eq⟩

/-- A guest has a room and a host, which both have a name. A visit is to a stranger. -/
def guests : Schema :=
  let guest : Properties := .ofEntries
    [("room", { reference := some "#/definitions/Room" }), ("name", { type := some .string }),
     ("host", { reference := some "#/definitions/Host" }), ("note", { type := some .string })]
  let room : Properties := .ofEntries
    [("name", { description := some "Room" }), ("floor", { type := some .integer })]
  let host : Properties := .ofEntries
    [("floor", { format := some .int32 }), ("name", { description := some "Host" })]
  let visit : Properties := .ofEntries
    [("guest", { reference := some "#/definitions/Stranger" })]
  { definitions := .ofEntries
      [("Guest", { properties := guest, required := ["name"] }), ("Room", { properties := room }),
       ("Host", { properties := host }), ("Visit", { properties := visit })] }

def guest : Definition := (guests.definitions.get? "Guest").getD {}

def visit : Definition := (guests.definitions.get? "Visit").getD {}

/-- The name of a guest is flagged though it is no reference. -/
def guestFlags : PrepareRules :=
  { fields := .ofEntries
      [("host", { flatten := true }), ("name", { flatten := true }), ("room", { flatten := true }),
       ("note", {})] }

def visitFlags : PrepareRules := { fields := .ofEntries [("guest", { flatten := true })] }

def flattenedGuest : Definition :=
  { properties := .ofEntries
      [("name", { type := some .string, description := some "Host" }),
       ("note", { type := some .string }),
       ("floor", { type := some .integer, format := some .int32 })]
    required := ["name"] }

/-- The guest is rewritten as for a form, and the visit fails as for one. -/
theorem prepare_guests :
    guests.definitions.get? "Guest" = some guest ∧ guests.definitions.get? "Visit" = some visit ∧
      guestFlags.asFormRules.MergesFlagged guestFlags ∧
      visitFlags.asFormRules.MergesFlagged visitFlags ∧
      (guests.prepare (.ofEntries [("Guest", guestFlags)])).map (·.definitions.get? "Guest") =
        .ok (some flattenedGuest) ∧
      (guests.prepare (.ofEntries [("Visit", visitFlags)])).map (·.definitions.get? "Visit") =
        .error (.unresolvedReference "Visit" "guest" "#/definitions/Stranger") := by
  have guest_found : guests.definitions.get? "Guest" = some guest := by decide
  have visit_found : guests.definitions.get? "Visit" = some visit := by decide
  have guest_alone :=
    (prepare_flattens_alike guest_found guestFlags.mergesFlagged_asFormRules).1
  have visit_alone :=
    (prepare_flattens_alike visit_found visitFlags.mergesFlagged_asFormRules).1
  refine ⟨guest_found, visit_found, guestFlags.mergesFlagged_asFormRules,
    visitFlags.mergesFlagged_asFormRules, guest_alone.trans ?_, visit_alone.trans ?_⟩
  · decide
  · decide

end Schema
end SchemaForms
