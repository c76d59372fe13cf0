import SchemaForms.Form.Column
/-! Fields of a form, each made from a property and the rule for it. -/
namespace SchemaForms

structure Field where
  name : String
  type : FieldType
  title : Option LocaleKey := none
  required : Option Bool := none
  text : Option LocaleKey := none
  options : Option (List Choice) := none
  columns : Option (List Column) := none
  addRows : Bool := false
  /-- Attributes laid over the others. -/
  extra : OrderedMap Json := {}
deriving DecidableEq

def Choice.toOptionJson (choice : Choice) : Json :=
  .object [("text", .string choice.label.reference), ("name", choice.literal)]

/-- What the fields of one form have in common. -/
structure FormScope where
  schema : Schema
  name : String
  definition : Definition
  root : LocaleKey

namespace Field

/-- The button at the end of every form. -/
def submit (text : LocaleKey) : Field := { name := "submit", type := .submit, text := some text }

/-- The attributes that do not come from `extra`, in document order. -/
def attributes (field : Field) : Entries Json :=
  [("name", .string field.name), ("type", .string field.type.name)] ++
    optionalMember "title" (fun key => .string key.reference) field.title ++
    optionalMember "required" .bool field.required ++
    optionalMember "text" (fun key => .string key.reference) field.text ++
    optionalMember "options" (fun options => .array (options.map Choice.toOptionJson))
      field.options ++
    optionalMember "columns" (fun columns => .array (columns.map Column.toJson)) field.columns ++
    (if field.addRows then [("addRows", .bool true)] else [])

def toJson (field : Field) : Json :=
  .object (Entries.insertAll field.attributes field.extra.entries)

/-- The type that the rule or else the attributes give. A skipped property has none, and neither
has one whose attributes call for no field. -/
def typeOf? (rule : FieldRule) (property : Property) : Option FieldType :=
  if rule.skip then none else rule.type <|> property.fieldType?

/-- Title and required flag, which hidden fields lack. -/
def heading (scope : FormScope) (name : String) (property : Property) (type : FieldType) :
    Labelled Field :=
  let field : Field := { name := fieldName name, type }
  let key := scope.root.child field.name
  if type.isVisible then
    { value :=
        { field with title := some key, required := some (scope.definition.isRequired name) }
      labels := [⟨key, property.description.getD name⟩] }
  else { value := field, labels := [] }

/-- The columns of a table; without a reference it has none. -/
def columnsOf (scope : FormScope) (name : String) (property : Property) (rule : FieldRule) :
    Except FormError (Labelled (List Column)) :=
  match property.itemsReference with
  | none => .ok { value := [], labels := [] }
  | some reference =>
    (scope.schema.follow scope.name name reference).map
      (Column.build (scope.root.child (fieldName name)) rule)

/-- What the type adds to the heading. -/
def withContent (scope : FormScope) (name : String) (property : Property) (rule : FieldRule)
    (heading : Labelled Field) : Except FormError (Labelled Field) :=
  match heading.value.type with
  | .select =>
    let key := scope.root.child heading.value.name
    let literals := property.literals.getD []
    .ok
      { value := { heading.value with options := some (literals.map (choice key)) }
        labels := heading.labels ++ literals.map (literalLabel key) }
  | .table =>
    (columnsOf scope name property rule).map fun columns =>
      { value := { heading.value with columns := some columns.value, addRows := true }
        labels := heading.labels ++ columns.labels }
  | _ => .ok heading

/-- The field of a property under its rule, if it has one. -/
def build (scope : FormScope) (rules : RuleSet) (entry : String × Property) :
    Except FormError (Option (Labelled Field)) :=
  let (name, property) := entry
  let rule := (rules.field? name).getD {}
  match typeOf? rule property with
  | none => .ok none
  | some type =>
    (withContent scope name property rule (heading scope name property type)).map fun field =>
      some { field with value := { field.value with extra := rule.extra } }

end Field
end SchemaForms
