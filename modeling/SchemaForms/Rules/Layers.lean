import SchemaForms.Rules.Basic
import SchemaForms.Form.Basic
/-! The rule book of a project and the layers of rules that apply to one form. The layers are
merged as documents, and only the merged document is read. -/
namespace SchemaForms

/-- The key of the rules for every definition, or for every operation. -/
def wildcard : String := "*"

structure RuleBook where
  prepare : OrderedMap PrepareRules := {}
  entries : OrderedMap Json := {}
deriving DecidableEq, Inhabited

/-- Rules of one definition, with the rules for every definition below them. -/
structure DefinitionRules where
  definition : String
  document : Json
deriving DecidableEq

/-- Keys of a definition's rules that are not themselves overrides. -/
def isLayerKey (key : String) : Bool :=
  key = "skip" || key = wildcard || Operation.all.any (fun operation => operation.name = key)

namespace RuleBook

/-- Every key but `prepare` names a definition. Null is the empty book. -/
def ofJson : Decoder RuleBook
  | .null => .ok {}
  | .object members => do
    let prepare ← match Entries.get? members "prepare" with
      | none => pure {}
      | some value => value.asMap PrepareRules.ofJson
    return { prepare, entries := (OrderedMap.ofEntries members).erase "prepare" }
  | value => .error (.invalidType value "a map")

def definitionRules (book : RuleBook) (definition : String) : DefinitionRules :=
  { definition
    document := Json.mergeLayers [book.entries.get? wildcard, book.entries.get? definition] }

end RuleBook

namespace DefinitionRules

/-- A skipped definition has no forms. -/
def isSkipped (rules : DefinitionRules) : Bool :=
  ((rules.document.get? "skip").bind Json.bool?).getD false

/-- The overrides placed on the definition itself. -/
def own? (rules : DefinitionRules) : Option Json :=
  rules.document.members?.map fun members =>
    .object (members.filter (fun member => !isLayerKey member.1))

/-- The overrides on the definition, then those for every operation, then those for the one. -/
def merged (rules : DefinitionRules) (operation : Operation) : Json :=
  Json.mergeLayers
    [rules.own?, rules.document.get? wildcard, rules.document.get? operation.name]

def resolve (rules : DefinitionRules) (operation : Operation) : Except FormError RuleSet :=
  (RuleSet.ofMerged (rules.merged operation)).mapError fun (field, cause) =>
    .invalidRules rules.definition operation field cause

end DefinitionRules
end SchemaForms
