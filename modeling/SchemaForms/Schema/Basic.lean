import SchemaForms.FieldType
/-! Definitions of a schema, as far as their properties decide a form, and the documents that they
are written as. -/
namespace SchemaForms

/-- Types without meaning for forms are all `unknown`. -/
inductive SchemaType where
  | string
  | integer
  | number
  | boolean
  | array
  | object
  | unknown
deriving DecidableEq, Repr, Inhabited

/-- Formats without meaning for forms are all `other`. -/
inductive SchemaFormat where
  | int32
  | int64
  | float
  | double
  | date
  | dateTime
  | other
deriving DecidableEq, Repr, Inhabited

/-- Attributes of a property; `items` describes the elements of an array. -/
structure Property where
  type : Option SchemaType := none
  format : Option SchemaFormat := none
  literals : Option (List Json) := none
  items : Option Property := none
  reference : Option String := none
  description : Option String := none
deriving Inhabited

namespace Property

def decEq : (p q : Property) → Decidable (p = q)
  | ⟨t, f, l, i, r, d⟩, ⟨t', f', l', i', r', d'⟩ =>
    have : Decidable (i = i') := match i, i' with
      | none, none => isTrue rfl
      | none, some _ | some _, none => isFalse nofun
      | some p, some q => match decEq p q with
        | isTrue h => isTrue (h ▸ rfl)
        | isFalse h => isFalse (fun e => h (by cases e; rfl))
    decidable_of_iff (t = t' ∧ f = f' ∧ l = l' ∧ i = i' ∧ r = r' ∧ d = d') (by simp)

instance : DecidableEq Property := decEq

/-- Attributes of `top` win; those it lacks stay. Descriptions of elements combine alike. -/
def overlay : (base top : Property) → Property
  | base, ⟨type, format, literals, items, reference, description⟩ =>
    { type := type <|> base.type
      format := format <|> base.format
      literals := literals <|> base.literals
      items := match items, base.items with
        | none, below => below
        | some items, none => some items
        | some items, some below => some (below.overlay items)
      reference := reference <|> base.reference
      description := description <|> base.description }

def itemsReference (property : Property) : Option String :=
  property.items.bind Property.reference

/-- The field type that the attributes call for: the first that applies of a choice, a number of
known width, a text or date, and a table of referenced rows. -/
def fieldType? (property : Property) : Option FieldType :=
  if property.literals.isSome then some .select
  else match property.type, property.format with
    | some .integer, some .int32 | some .integer, some .int64 | some .integer, some .double
    | some .number, some .int32 | some .number, some .int64 | some .number, some .double =>
      some .number
    | some .string, none => some .text
    | some .string, some .date => some .date
    | some .string, some .dateTime => some .dateTime
    | some .array, _ => if property.itemsReference.isSome then some .table else none
    | _, _ => none

def columnType? (property : Property) : Option ColumnType :=
  property.fieldType?.bind ColumnType.ofFieldType?

end Property

abbrev Properties := OrderedMap Property

structure Definition where
  properties : Properties := {}
  required : List String := []
deriving DecidableEq, Inhabited

def Definition.isRequired (definition : Definition) (property : String) : Bool :=
  definition.required.contains property

structure Schema where
  definitions : OrderedMap Definition := {}
deriving DecidableEq, Inhabited

/-- The part of a reference after its last slash, unless that is empty. -/
def referenceName? (reference : String) : Option String :=
  match (reference.toList.reverse.takeWhile (· ≠ '/')).reverse with
  | [] => none
  | name => some (String.ofList name)

/-- The properties of the definition that a reference names. -/
def Schema.resolve? (schema : Schema) (reference : String) : Option Properties :=
  ((referenceName? reference).bind schema.definitions.get?).map Definition.properties

namespace SchemaType

def name : SchemaType → String
  | .string => "string"
  | .integer => "integer"
  | .number => "number"
  | .boolean => "boolean"
  | .array => "array"
  | .object => "object"
  | .unknown => "unknown"

def ofName (name : String) : SchemaType :=
  ([.string, .integer, .number, .boolean, .array, .object].find?
    (fun type => type.name = name)).getD .unknown

def ofJson : Decoder SchemaType := Json.asName (fun name => .ok (ofName name))

theorem ofName_name (type : SchemaType) : ofName type.name = type := by
  cases type <;> rfl

end SchemaType

namespace SchemaFormat

def name : SchemaFormat → String
  | .int32 => "int32"
  | .int64 => "int64"
  | .float => "float"
  | .double => "double"
  | .date => "date"
  | .dateTime => "date-time"
  | .other => "other"

def ofName (name : String) : SchemaFormat :=
  ([.int32, .int64, .float, .double, .date, .dateTime].find?
    (fun format => format.name = name)).getD .other

def ofJson : Decoder SchemaFormat := Json.asName (fun name => .ok (ofName name))

theorem ofName_name (format : SchemaFormat) : ofName format.name = format := by
  cases format <;> rfl

end SchemaFormat

/-- A member for a present value. -/
def optionalMember {α : Type} (name : String) (encode : α → Json) : Option α → Entries Json
  | none => []
  | some value => [(name, encode value)]

def Property.toJson : Property → Json
  | ⟨type, format, literals, items, reference, description⟩ =>
    .object
      (optionalMember "type" (fun type => .string type.name) type ++
        optionalMember "format" (fun format => .string format.name) format ++
        optionalMember "enum" .array literals ++
        (match items with
          | none => []
          | some items => [("items", items.toJson)]) ++
        optionalMember "$ref" .string reference ++
        optionalMember "description" .string description)

def Properties.toJson (properties : Properties) : Json :=
  .ofMap (properties.mapValues Property.toJson)

def Definition.toJson (definition : Definition) : Json :=
  .object
    (("properties", Properties.toJson definition.properties) ::
      if definition.required.isEmpty then [] else [("required", Json.strings definition.required)])

def Schema.toJson (schema : Schema) : Json :=
  .object [("definitions", .ofMap (schema.definitions.mapValues Definition.toJson))]

end SchemaForms
