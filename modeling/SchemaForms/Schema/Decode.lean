import SchemaForms.Schema.Basic
/-! Schemas from documents. Attributes and keys without meaning for forms are passed over, so that
complete interface descriptions can be read. -/
namespace SchemaForms

namespace Property

/-- Attributes in the order in which a list gives them. -/
def attributeNames : List String := ["type", "format", "enum", "items", "$ref", "description"]

/-- Every attribute but the one that nests. -/
def setScalar (property : Property) (name : String) (value : Json) :
    Except DecodeError Property :=
  match name with
  | "type" => do return { property with type := ← value.asOptional SchemaType.ofJson }
  | "format" => do return { property with format := ← value.asOptional SchemaFormat.ofJson }
  | "enum" => do return { property with literals := ← value.asOptional (Json.asList .ok) }
  | "$ref" => do return { property with reference := ← value.asOptional Json.asString }
  | "description" => do return { property with description := ← value.asOptional Json.asString }
  | _ => .ok property

mutual
def ofJson : Json → Except DecodeError Property
  | .object members => ofMembers {} members
  | .array items => ofElements attributeNames items.length {} items
  | value => .error (.invalidType value "struct Property")

def ofMembers (property : Property) : List (String × Json) → Except DecodeError Property
  | [] => .ok property
  | (name, value) :: rest =>
    if name = "items" then
      match value with
      | .null => ofMembers { property with items := none } rest
      | value => do
        let items ← ofJson value
        ofMembers { property with items := some items } rest
    else do
      let property ← property.setScalar name value
      ofMembers property rest

/-- A list gives all attributes by position, with null for the absent ones. -/
def ofElements (names : List String) (length : Nat) (property : Property) :
    List Json → Except DecodeError Property
  | [] =>
    if names.isEmpty then .ok property
    else .error (.invalidLength length "struct Property with 6 elements")
  | value :: rest =>
    match names with
    | [] => .error (.invalidLength length "fewer elements in array")
    | name :: names =>
      if name = "items" then
        match value with
        | .null => ofElements names length { property with items := none } rest
        | value => do
          let items ← ofJson value
          ofElements names length { property with items := some items } rest
      else do
        let property ← property.setScalar name value
        ofElements names length property rest
end

end Property

namespace Definition

def set (definition : Definition) : String × Json → Except DecodeError Definition
  | ("properties", value) => do
    return { definition with properties := ← value.asMap Property.ofJson }
  | ("required", value) => do
    return { definition with required := ← value.asList Json.asString }
  | _ => .ok definition

def ofJson : Decoder Definition := Json.asRecord "Definition" ["properties", "required"] {} set

end Definition

namespace Schema

def set (schema : Schema) : String × Json → Except DecodeError Schema
  | ("definitions", value) => do
    return { schema with definitions := ← value.asMap Definition.ofJson }
  | _ => .ok schema

def ofJson : Decoder Schema := Json.asRecord "ApiSchema" ["definitions"] {} set

end Schema
end SchemaForms
