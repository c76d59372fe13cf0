import SchemaForms.Form.Document
/-! Generation of forms over a prepared schema. A definition and operation that fail do not keep
the others from being generated. -/
namespace SchemaForms

structure Generation where
  forms : List GeneratedForm := []
  failures : List FormError := []
deriving DecidableEq

namespace Generation

instance : Append Generation where
  append first second :=
    { forms := first.forms ++ second.forms, failures := first.failures ++ second.failures }

def ofResult : Except FormError GeneratedForm → Generation
  | .ok form => { forms := [form] }
  | .error failure => { failures := [failure] }

def isSuccess (generation : Generation) : Bool := generation.failures.isEmpty

def form? (generation : Generation) (definition : String) (operation : Operation) :
    Option GeneratedForm :=
  generation.forms.find? (fun form => form.definition = definition && form.operation = operation)

/-- The text of the first artifact of that file name. -/
def artifact? (generation : Generation) (fileName : String) : Option String :=
  (generation.forms.flatMap GeneratedForm.artifacts).lookup fileName

end Generation

structure Generator where
  schema : Schema
  rules : RuleBook
deriving DecidableEq

namespace Generator

/-- Runs the prepare pass of the rules over the schema. -/
def prepare (schema : Schema) (rules : RuleBook) : Except FormError Generator := do
  return { schema := ← schema.prepare rules.prepare, rules }

def definition (generator : Generator) (name : String) : Except FormError Definition :=
  match generator.schema.definitions.get? name with
  | some definition => .ok definition
  | none => .error (.unknownDefinition name)

def build (generator : Generator) (name : String) (definition : Definition)
    (rules : DefinitionRules) (operation : Operation) : Except FormError GeneratedForm := do
  generator.schema.buildForm name definition operation (← rules.resolve operation)

/-- One form; none when the definition is skipped. -/
def generateForm (generator : Generator) (name : String) (operation : Operation) :
    Except FormError (Option GeneratedForm) := do
  let definition ← generator.definition name
  let rules := generator.rules.definitionRules name
  if rules.isSkipped then return none
  return some (← generator.build name definition rules operation)

/-- Both forms of a definition, or nothing when it is skipped. -/
def generateDefinition (generator : Generator) (entry : String × Definition) : Generation :=
  let (name, definition) := entry
  let rules := generator.rules.definitionRules name
  if rules.isSkipped then {}
  else Operation.all.foldl
    (fun generation operation =>
      generation ++ .ofResult (generator.build name definition rules operation)) {}

def generateOnly (generator : Generator) (name : String) : Except FormError Generation := do
  return generator.generateDefinition (name, ← generator.definition name)

/-- Both forms of every definition, in the order of the schema. -/
def generate (generator : Generator) : Generation :=
  generator.schema.definitions.entries.foldl
    (fun generation entry => generation ++ generator.generateDefinition entry) {}

end Generator
end SchemaForms
