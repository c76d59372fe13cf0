import SchemaForms.Fixture.Basic
import SchemaForms.Project
import SchemaForms.Yaml.Value
/-! Readers for the inputs of the program: schemas, rule books, projects and fixtures. They know the
part of YAML that `Yaml.Token` has tokens for; the program takes whatever reader it is given. Every
scalar reads as a text where one is expected, and a record is never given by position. -/
namespace SchemaForms

open Yaml (Node)

namespace Property

def attributeFromNode? (property : Property) (name : String) (node : Node) : Option Property :=
  match name with
  | "type" => do
    return { property with type := (← node.optional? Node.text?).map SchemaType.ofName }
  | "format" => do
    return { property with format := (← node.optional? Node.text?).map SchemaFormat.ofName }
  | "enum" => do return { property with literals := ← node.optional? (Node.list? Node.toJson?) }
  | "$ref" => do return { property with reference := ← node.optional? Node.text? }
  | "description" => do return { property with description := ← node.optional? Node.text? }
  | _ => some property

mutual
def ofNode? : Node → Option Property
  | .mapping entries => ofNodeEntries? [] {} entries
  | .scalar text isPlain => if (Node.scalar text isPlain).isEmptyPlain then some {} else none
  | .sequence _ => none

/-- `seen` holds the attributes given so far, none of which may be given again. -/
def ofNodeEntries? (seen : List String) (property : Property) :
    List (Node × Node) → Option Property
  | [] => some property
  | (.scalar name _, value) :: rest => do
    if seen.contains name then none
    let seen := if ["type", "format", "enum", "items", "$ref", "description"].contains name then
      name :: seen else seen
    if name = "items" then
      if value.isNull then ofNodeEntries? seen { property with items := none } rest
      else
        let items ← ofNode? value
        ofNodeEntries? seen { property with items := some items } rest
    else
      let property ← property.attributeFromNode? name value
      ofNodeEntries? seen property rest
  | _ => none
end

end Property

namespace Definition

def setFromNode? (definition : Definition) : String × Node → Option Definition
  | ("properties", node) => do
    return { definition with properties := ← node.map? Property.ofNode? }
  | ("required", node) => do return { definition with required := ← node.list? Node.text? }
  | _ => some definition

def ofNode? (node : Node) : Option Definition := do
  (← node.record? ["properties", "required"]).foldlM setFromNode? {}

end Definition

namespace Schema

def setFromNode? (schema : Schema) : String × Node → Option Schema
  | ("definitions", node) => do
    return { schema with definitions := ← node.map? Definition.ofNode? }
  | _ => some schema

def ofNode? (node : Node) : Option Schema := do
  (← node.record? ["definitions"]).foldlM setFromNode? {}

end Schema

namespace RuleBook

/-- A rule book is a mapping, or null for the empty one. -/
def ofNode? (node : Node) : Option RuleBook :=
  if node.isNull then some {}
  else if node.isMapping then
    node.toJson?.bind (fun document => (ofJson document).toOption)
  else none

end RuleBook

namespace Target

def attributeNames : List String := ["schema", "target-directory", "rules"]

/-- The schema and the directory have to be given. -/
def ofNode? (node : Node) : Option Target := do
  let entries ← node.record? attributeNames
  let schema ← (← Entries.get? entries "schema").text?
  let directory ← (← Entries.get? entries "target-directory").text?
  let rules ← match Entries.get? entries "rules" with
    | none => some {}
    | some rules => RuleBook.ofNode? rules
  return { schema := ⟨schema⟩, directory := ⟨directory⟩, rules }

end Target

namespace Project

def defaultTargetsOfNode? (node : Node) : Option (List String) := do
  let entries ← node.record? ["default-targets"]
  match Entries.get? entries "default-targets" with
  | none => some []
  | some names => names.list? Node.text?

def ofNode? (node : Node) : Option Project := do
  let entries ← node.record? ["targets", "cli"]
  let targets ← match Entries.get? entries "targets" with
    | none => some {}
    | some targets => targets.map? Target.ofNode?
  let cli ← match Entries.get? entries "cli" with
    | none => some none
    | some cli => cli.optional? defaultTargetsOfNode?
  return { targets, defaultTargets := cli.getD [] }

end Project

namespace Fixture

def attributeNames : List String :=
  ["description", "schema", "rules", "expected", "error", "absent"]

/-- Reads an attribute that may be left out. -/
def attribute? {α : Type} (entries : Entries Node) (name : String) (default : α)
    (decode : Node → Option α) : Option α :=
  match Entries.get? entries name with
  | none => some default
  | some node => decode node

def ofNode? (node : Node) : Option Fixture := do
  let entries ← node.record? attributeNames
  return {
    description := ← attribute? entries "description" none (Node.optional? Node.text?)
    schema := ← (Entries.get? entries "schema").bind Schema.ofNode?
    rules := ← attribute? entries "rules" {} RuleBook.ofNode?
    expected := ← attribute? entries "expected" {} (Node.map? Node.toJson?)
    error := ← attribute? entries "error" none (Node.optional? Node.text?)
    absent := ← attribute? entries "absent" [] (Node.list? Node.text?) }

end Fixture

/-- The value of the one node that a text holds. -/
def Yaml.Node.read? {α : Type} (ofNode? : Node → Option α) (source : String) : Option α :=
  (Node.parse? source).bind ofNode?

instance : Readable Schema := ⟨Node.read? Schema.ofNode?⟩

instance : Readable RuleBook := ⟨Node.read? RuleBook.ofNode?⟩

instance : Readable Project := ⟨Node.read? Project.ofNode?⟩

instance : Readable Fixture := ⟨Node.read? Fixture.ofNode?⟩

end SchemaForms
