import SchemaForms.Schema.Basic
import SchemaForms.Rules.Basic
import SchemaForms.Form.Basic
/-! Replacing a reference by the properties it refers to: once over a whole schema by the prepare
pass, and again for each form by its rules. Properties brought in are not followed further. -/
namespace SchemaForms

inductive FlattenMode where
  | merge
  | prefixed
deriving DecidableEq, Repr

/-- Under its own name a property is laid over one already there; under the name of its owner it
replaces it. -/
def FlattenMode.place (mode : FlattenMode) (owner : String) (properties : Properties)
    (entry : String × Property) : Properties :=
  match mode with
  | .merge => properties.upsert entry.1 fun
    | none => entry.2
    | some existing => existing.overlay entry.2
  | .prefixed => properties.insert (owner ++ "." ++ entry.1) entry.2

/-- `referenced` takes the place of the property `owner`. -/
def Properties.inline (properties : Properties) (mode : FlattenMode) (owner : String)
    (referenced : Properties) : Properties :=
  (referenced.entries.foldl (mode.place owner) properties).erase owner

namespace Schema

/-- The properties behind a reference made by `property` of `definition`. -/
def follow (schema : Schema) (definition property reference : String) :
    Except FormError Properties :=
  match schema.resolve? reference with
  | some properties => .ok properties
  | none => .error (.unresolvedReference definition property reference)

def inlineReference (schema : Schema) (definition : String) (properties : Properties)
    (mode : FlattenMode) (owner reference : String) : Except FormError Properties :=
  (schema.follow definition owner reference).map (properties.inline mode owner)

/-- One step of the prepare pass: a flagged reference is followed in the unprepared schema. -/
def prepareProperty (schema : Schema) (definition : String) (rules : PrepareRules)
    (properties : Properties) (entry : String × Property) : Except FormError Properties :=
  match rules.flattens entry.1, entry.2.reference with
  | true, some reference =>
    schema.inlineReference definition properties .merge entry.1 reference
  | _, _ => .ok properties

def prepareProperties (schema : Schema) (definition : String) (properties : Properties)
    (rules : PrepareRules) : Except FormError Properties :=
  properties.entries.foldlM (schema.prepareProperty definition rules) properties

/-- Rules for a definition that the schema lacks change nothing. -/
def prepareDefinition (schema prepared : Schema) (entry : String × PrepareRules) :
    Except FormError Schema :=
  match schema.definitions.get? entry.1 with
  | none => .ok prepared
  | some definition => do
    let properties ← schema.prepareProperties entry.1 definition.properties entry.2
    return { prepared with
      definitions := prepared.definitions.modify entry.1 ({ · with properties }) }

/-- References are followed in the given schema, whatever has been prepared before. -/
def prepare (schema : Schema) (rules : OrderedMap PrepareRules) : Except FormError Schema :=
  rules.entries.foldlM schema.prepareDefinition schema

/-- One step of the pass for a form. -/
def flattenProperty (schema : Schema) (definition : String) (rules : RuleSet)
    (properties : Properties) (entry : String × Property) : Except FormError Properties :=
  match (rules.field? entry.1).filter FieldRule.flatten, entry.2.reference with
  | some rule, some reference =>
    let mode := if rule.prefixed then .prefixed else .merge
    schema.inlineReference definition properties mode entry.1 reference
  | _, _ => .ok properties

def flattenProperties (schema : Schema) (definition : String) (properties : Properties)
    (rules : RuleSet) : Except FormError Properties :=
  properties.entries.foldlM (schema.flattenProperty definition rules) properties

end Schema
end SchemaForms
