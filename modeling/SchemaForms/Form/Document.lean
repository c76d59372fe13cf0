import SchemaForms.Form.Field
import SchemaForms.Rules.Layers
/-! The two documents of a definition and an operation: the form and its locale map. -/
namespace SchemaForms

structure FormSection where
  fields : List Field
deriving DecidableEq

structure Form where
  title : LocaleKey
  sections : List FormSection
deriving DecidableEq

namespace Form

def fields (form : Form) : List Field := form.sections.flatMap FormSection.fields

def field? (form : Form) (name : String) : Option Field :=
  form.fields.find? (fun field => field.name = name)

def toJson (form : Form) : Json :=
  .object
    [("title", .string form.title.reference),
     ("sections", .array (form.sections.map fun part =>
       .object [("fields", .array (part.fields.map Field.toJson))]))]

end Form

structure GeneratedForm where
  definition : String
  operation : Operation
  form : Form
  locales : LocaleMap
deriving DecidableEq

namespace GeneratedForm

def fileStem (generated : GeneratedForm) : String :=
  Text.kebabCase generated.definition ++ "-" ++ generated.operation.name

def formFile (generated : GeneratedForm) : String := generated.fileStem ++ ".json"

def localesFile (generated : GeneratedForm) : String := generated.fileStem ++ "-locales.json"

def formText (generated : GeneratedForm) : String := generated.form.toJson.pretty

def localesText (generated : GeneratedForm) : String := (LocaleMap.toJson generated.locales).pretty

/-- The files of the form with their contents, in the order of writing. -/
def artifacts (generated : GeneratedForm) : List (String × String) :=
  [(generated.formFile, generated.formText), (generated.localesFile, generated.localesText)]

end GeneratedForm

/-- The fields of all properties that have one, in order. -/
def FormScope.fields (scope : FormScope) (rules : RuleSet) (properties : Properties) :
    Except FormError (List (Labelled Field)) :=
  (properties.entries.mapM (Field.build scope rules)).map (·.filterMap id)

/-- A field replaces an earlier one of its name where that stands, but not its labels; the submit
button comes last. -/
def FormScope.assemble (scope : FormScope) (fields : List (Labelled Field)) :
    Form × LocaleMap :=
  let save := scope.root.child "save"
  let byName := OrderedMap.ofEntries (fields.map fun field => (field.value.name, field.value))
  let labels :=
    ⟨scope.root, scope.name⟩ :: fields.flatMap Labelled.labels ++ [⟨save, "Save"⟩]
  ({ title := scope.root, sections := [⟨byName.values ++ [Field.submit save]⟩] },
   LocaleMap.registerAll {} labels)

/-- The form and locale map of a definition under resolved rules. -/
def Schema.buildForm (schema : Schema) (name : String) (definition : Definition)
    (operation : Operation) (rules : RuleSet) : Except FormError GeneratedForm := do
  let properties ← schema.flattenProperties name definition.properties rules
  let scope : FormScope := { schema, name, definition, root := .root name operation }
  let fields ← scope.fields rules properties
  let (form, locales) := scope.assemble fields
  return { definition := name, operation, form, locales }

end SchemaForms
