import SchemaForms.Text.Words
import SchemaForms.Json.Decode
/-! What every form goes by: the operation it is for, the names that it derives from names and
literals of a schema, its display texts under dotted keys in the order of their first registration,
and the reasons why it, or all forms of a schema, cannot be generated. -/
namespace SchemaForms

inductive Operation where
  | update
  | create
deriving DecidableEq, Repr, Inhabited

namespace Operation

/-- In the order in which forms are generated. -/
def all : List Operation := [.update, .create]

def name : Operation → String
  | .update => "update"
  | .create => "create"

def capitalized : Operation → String
  | .update => "Update"
  | .create => "Create"

def ofName (name : String) : Except DecodeError Operation :=
  match all.find? (fun operation => operation.name = name) with
  | some operation => .ok operation
  | none => .error (.unknownName name (all.map Operation.name))

def ofJson : Decoder Operation := Json.asName ofName

end Operation

/-- Each part between dots is written in camel case on its own. -/
def fieldName (property : String) : String :=
  ".".intercalate
    ((segments '.' property.toList).map (fun part => Text.camelCase (String.ofList part)))

/-- The display text of an enumerated literal. -/
def literalText : Json → String
  | .string text => text
  | literal => literal.compact

inductive FormError where
  | unresolvedReference (definition property reference : String)
  | invalidRules (definition : String) (operation : Operation) (field : String)
      (cause : DecodeError)
  | unknownDefinition (definition : String)
deriving DecidableEq

def FormError.message : FormError → String
  | .unresolvedReference definition property reference =>
    "property `" ++ property ++ "` of definition `" ++ definition ++
      "` references unknown definition `" ++ reference ++ "`"
  | .invalidRules definition operation field cause =>
    "invalid rules for definition `" ++ definition ++ "` (" ++ operation.name ++ "): field `" ++
      field ++ "`: " ++ cause.message
  | .unknownDefinition definition => "unknown definition `" ++ definition ++ "`"

structure LocaleKey where
  path : String
deriving DecidableEq, Inhabited

namespace LocaleKey

/-- The key above all keys of one form. -/
def root (definition : String) (operation : Operation) : LocaleKey :=
  ⟨"forms." ++ Text.camelCase definition ++ operation.capitalized⟩

def child (key : LocaleKey) (segment : String) : LocaleKey := ⟨key.path ++ "." ++ segment⟩

/-- How a document refers to the text under the key. -/
def reference (key : LocaleKey) : String := "[[" ++ key.path ++ "]]"

end LocaleKey

structure Label where
  key : LocaleKey
  text : String
deriving DecidableEq, Inhabited

/-- A literal is labelled below its parent by its own text. -/
def literalLabel (parent : LocaleKey) (literal : Json) : Label :=
  ⟨parent.child (literalText literal), literalText literal⟩

/-- A literal that a reader picks by its label. -/
structure Choice where
  label : LocaleKey
  literal : Json
deriving DecidableEq

def choice (parent : LocaleKey) (literal : Json) : Choice :=
  ⟨(literalLabel parent literal).key, literal⟩

abbrev LocaleMap := OrderedMap String

namespace LocaleMap

/-- A key registered again keeps its position and takes the latest text. -/
def register (map : LocaleMap) (label : Label) : LocaleMap := map.insert label.key.path label.text

def registerAll (map : LocaleMap) (labels : List Label) : LocaleMap := labels.foldl register map

/-- One choice for each literal, in their order. -/
def registerLiterals (map : LocaleMap) (parent : LocaleKey) (literals : List Json) :
    LocaleMap × List Choice :=
  (registerAll map (literals.map (literalLabel parent)), literals.map (choice parent))

def toJson (map : LocaleMap) : Json := .ofMap (map.mapValues .string)

end LocaleMap

/-- A part of a form with the labels it refers to, in registration order. -/
structure Labelled (α : Type) where
  value : α
  labels : List Label
deriving DecidableEq

end SchemaForms
