import SchemaForms.Proofs.FormShape
import SchemaForms.Proofs.Paths
import SchemaForms.Proofs.Replacements
import SchemaForms.Proofs.RuleLookups
/-! A property that gives way to its parts, each under the name of the whole and a dot. The parts
come through flattening as they are, and the field of a part is named after the field names of
both. -/
namespace SchemaForms

theorem fieldName_append_dot (first second : String) :
    fieldName (first ++ "." ++ second) = fieldName first ++ "." ++ fieldName second := by
  have split : (first ++ "." ++ second).toList = first.toList ++ '.' :: second.toList := by simp
  have first_parts := segments_ne_nil '.' first.toList
  have second_parts := segments_ne_nil '.' second.toList
  rw [fieldName, split, segments_append_cons, List.map_append,
    String.intercalate_append_of_ne_nil (mt List.map_eq_nil_iff.mp first_parts)
      (mt List.map_eq_nil_iff.mp second_parts)]
  rfl

namespace Replacement

/-- A part lands under the name of the whole and its own. -/
theorem landing?_part {replacement : Replacement} (prefixed : replacement.mode = .prefixed)
    (part : String) :
    replacement.landing? (replacement.owner ++ "." ++ part) =
      replacement.referenced.get? part := by
  have entries_eq : (replacement.referenced.entries.map fun entry => (id entry.1, entry.2)) =
      replacement.referenced.entries := List.map_id _
  have found := get?_map_key id replacement.referenced.entries part
  rw [entries_eq] at found
  have named : ∀ name, replacement.owner ++ "." ++ name = replacement.owner ++ "." ++ part ↔
      name = part := fun _ => String.append_right_inj _
  simp only [landing?, prefixed, named]
  exact found.symm

theorem part_ne_owner (owner part : String) : owner ++ "." ++ part ≠ owner := by
  intro same
  have lengths := congrArg String.length same
  have dot : ".".length = 1 := rfl
  simp only [String.length_append] at lengths
  omega

/-- A part replaces what was there, whatever it was. -/
theorem get?_apply_part {replacement : Replacement} (prefixed : replacement.mode = .prefixed)
    {part : String} {attributes : Property}
    (has_part : replacement.referenced.get? part = some attributes) (properties : Properties) :
    (replacement.apply properties).get? (replacement.owner ++ "." ++ part) = some attributes := by
  rw [get?_apply, replay, if_neg (part_ne_owner _ _), landing?_part prefixed, has_part]
  simp only [prefixed]

theorem get?_apply_owner (replacement : Replacement) (properties : Properties) :
    (replacement.apply properties).get? replacement.owner = none := by
  rw [get?_apply, replay, if_pos rfl]

end Replacement

namespace Schema

/-- A pass that replaces one property makes one replacement. -/
theorem exists_replacement_of_single {schema : Schema} {name : String}
    {properties flattened : Properties} {rules : RuleSet} {entry : String × Property}
    (done : schema.flattenProperties name properties rules = .ok flattened)
    (only : properties.entries.filter rules.follows = [entry]) :
    ∃ replacement, schema.IsReplacement rules entry replacement ∧
      flattened = replacement.apply properties := by
  obtain ⟨replacements, all, flattened_eq⟩ := foldlM_flattenProperty_ok_iff.mp done
  rw [only] at all
  cases all with
  | cons here rest =>
    cases rest
    exact ⟨_, here, flattened_eq⟩

end Schema

/-- If one property of a definition is flattened, with its name in front of its parts, it is no key
of the flattened map, and each part is found there under both names with its own attributes. A part
that is not skipped and has a type has a field, named after the field names of both. -/
theorem Generator.generateForm_prefixed {generator : Generator} {name : String}
    {operation : Operation} {generated : GeneratedForm} {definition : Definition}
    {rules : RuleSet} {owner : String × Property}
    (done : generator.generateForm name operation = .ok (some generated))
    (found : generator.schema.definitions.get? name = some definition)
    (resolved : (generator.rules.definitionRules name).resolve operation = .ok rules)
    (only : definition.properties.entries.filter rules.follows = [owner])
    (prefixed : (rules.fieldRule owner.1).prefixed = true) :
    ∃ referenced flattened,
      owner.2.reference.bind generator.schema.resolve? = some referenced ∧
      generator.schema.flattenProperties name definition.properties rules = .ok flattened ∧
      owner.1 ∉ flattened.keys ∧
      ∀ part attributes, referenced.get? part = some attributes →
        let key := owner.1 ++ "." ++ part
        flattened.get? key = some attributes ∧
        ((rules.fieldRule key).skip = false →
          ((rules.fieldRule key).type <|> attributes.fieldType?).isSome →
          ∃ field ∈ generated.form.fields,
            field.name = fieldName owner.1 ++ "." ++ fieldName part) := by
  obtain ⟨definition', rules', found', _, resolved', built⟩ := generateForm_ok_iff.mp done
  obtain ⟨properties, fields, flattened, made, rfl⟩ := Schema.buildForm_ok_iff.mp built
  cases found.symm.trans found'
  cases resolved.symm.trans resolved'
  obtain ⟨replacement, is_replacement, rfl⟩ :=
    Schema.exists_replacement_of_single flattened only
  obtain ⟨owner_eq, ⟨rule, has_rule, mode_eq⟩, reference, refers, resolves⟩ := is_replacement
  have mode : replacement.mode = .prefixed := by
    rw [RuleSet.fieldRule, has_rule, Option.getD_some] at prefixed
    rw [mode_eq, if_pos prefixed]
  refine ⟨replacement.referenced, _, by rw [refers, Option.bind_some, resolves], flattened, ?_, ?_⟩
  · rw [← OrderedMap.get?_eq_none_iff, ← owner_eq]
    exact replacement.get?_apply_owner definition.properties
  · intro part attributes has_part key
    have key_eq : key = replacement.owner ++ "." ++ part := by rw [owner_eq]
    have landed : (replacement.apply definition.properties).get? key = some attributes :=
      key_eq ▸ Replacement.get?_apply_part mode has_part definition.properties
    refine ⟨landed, fun shown typed => ?_⟩
    have eligible : (key, attributes) ∈
        rules.eligible (replacement.apply definition.properties) :=
      List.mem_filter.mpr
        ⟨OrderedMap.mem_entries_iff.mpr landed, decide_eq_true ⟨shown, typed⟩⟩
    have named : fieldName key ∈ (FormScope.byName fields).values.map Field.name :=
      (FormScope.mem_names_byName_iff made).mpr ⟨(key, attributes), eligible, rfl⟩
    obtain ⟨field, member, name_eq⟩ := List.mem_map.mp named
    refine ⟨field, ?_, name_eq.trans (fieldName_append_dot owner.1 part)⟩
    have fields_eq := FormScope.fields_assemble
      (generator.schema.formScope name definition operation) fields
    rw [fields_eq]
    exact List.mem_append_left _ member

/-- The base of a courier is a site. Names have dots and delimiters, and one of them is empty. -/
def courierProperties : Properties := .ofEntries
  [("base.at", { reference := some "#/definitions/Site" }),
   ("base.at.zip-no", { description := some "Former zip" })]

def siteProperties : Properties := .ofEntries
  [("zip-no", { type := some .string }), ("", { type := some .string }),
   ("x.y", { type := some .number, format := some .double })]

def courierRuleSet : RuleSet :=
  { fields := .ofEntries
      [("base.at", { flatten := true, prefixed := true }), ("base.at.", { skip := true })] }

def couriers : Generator :=
  let flattens : Json :=
    .object [("flatten", .bool true), ("prefixFlatProperties", .bool true)]
  { schema :=
      { definitions := .ofEntries
          [("Courier", { properties := courierProperties }),
           ("Site", { properties := siteProperties })] }
    rules :=
      { entries := .ofEntries
          [("Courier", .object [("fields", .object
            [("base.at", flattens), ("base.at.", .object [("skip", .bool true)])])])] } }

def courierForm : GeneratedForm :=
  let root : LocaleKey := ⟨"forms.courierCreate"⟩
  let field (name : String) (type : FieldType) : Field :=
    { name, type, title := some (root.child name), required := some false }
  { definition := "Courier"
    operation := .create
    form :=
      { title := root
        sections :=
          [⟨[field "base.at.zipNo" .text, field "base.at.x.y" .number,
             Field.submit (root.child "save")]⟩] }
    locales := .ofEntries
      [("forms.courierCreate", "Courier"),
       ("forms.courierCreate.base.at.zipNo", "base.at.zip-no"),
       ("forms.courierCreate.base.at.x.y", "base.at.x.y"),
       ("forms.courierCreate.save", "Save")] }

theorem generateForm_couriers :
    couriers.generateForm "Courier" .create = .ok (some courierForm) := by
  decide +kernel

theorem resolve_couriers :
    (couriers.rules.definitionRules "Courier").resolve .create = .ok courierRuleSet := by
  decide +kernel

/-- The zip number of the site replaces the one of its courier. -/
theorem courierForm_prefixed :
    couriers.generateForm "Courier" .create = .ok (some courierForm) ∧
      (couriers.schema.definitions.get? "Courier").map Definition.properties =
        some courierProperties ∧
      (couriers.rules.definitionRules "Courier").resolve .create = .ok courierRuleSet ∧
      courierProperties.entries.filter courierRuleSet.follows =
        [("base.at", { reference := some "#/definitions/Site" })] ∧
      (courierRuleSet.fieldRule "base.at").prefixed = true ∧
      ∃ flattened,
        couriers.schema.flattenProperties "Courier" courierProperties courierRuleSet =
          .ok flattened ∧
        "base.at" ∉ flattened.keys ∧
        flattened.get? ("base.at" ++ "." ++ "zip-no") = some { type := some .string } ∧
        ∃ field ∈ courierForm.form.fields, field.name = "base.at.zipNo" := by
  have found : couriers.schema.definitions.get? "Courier" =
      some { properties := courierProperties } := by
    decide
  have only : courierProperties.entries.filter courierRuleSet.follows =
      [("base.at", { reference := some "#/definitions/Site" })] := by
    decide
  have prefixed : (courierRuleSet.fieldRule "base.at").prefixed = true := by decide
  obtain ⟨referenced, flattened, resolves, done, gone, parts⟩ :=
    Generator.generateForm_prefixed generateForm_couriers found resolve_couriers only prefixed
  have site : couriers.schema.resolve? "#/definitions/Site" = some siteProperties := by decide
  cases site.symm.trans resolves
  obtain ⟨landed, shown⟩ := parts "zip-no" { type := some .string } (by decide)
  obtain ⟨field, member, name_eq⟩ := shown (by decide) (by decide)
  have names : fieldName "base.at" ++ "." ++ fieldName "zip-no" = "base.at.zipNo" := by
    decide +kernel
  exact ⟨generateForm_couriers, congrArg (Option.map Definition.properties) found,
    resolve_couriers, only, prefixed, flattened, done, gone, landed, field, member,
    name_eq.trans names⟩

end SchemaForms
