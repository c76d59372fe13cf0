import SchemaForms.Json.Printer
import SchemaForms.Text.Quoted
/-! Reading typed values out of documents, and the reasons why one cannot be read. Values are read
in document order and the first reason is reported. -/
namespace SchemaForms

inductive DecodeError where
  | invalidType (found : Json) (expected : String)
  | invalidLength (length : Nat) (expected : String)
  | notSingleKey
  | unknownName (name : String) (known : List String)
deriving DecidableEq

namespace DecodeError

def describe : Json → String
  | .null => "null"
  | .bool value => "boolean `" ++ (if value then "true" else "false") ++ "`"
  | .number (.int value) => "integer `" ++ toString value ++ "`"
  | .number (.float value) => "floating point `" ++ value.text ++ "`"
  | .string value => "string " ++ Text.quoted value
  | .array _ => "sequence"
  | .object _ => "map"

def alternatives (names : List String) : String :=
  match names.map (fun name => "`" ++ name ++ "`") with
  | [] => "there are no names"
  | [name] => name
  | [first, second] => first ++ " or " ++ second
  | names => "one of " ++ ", ".intercalate names

def message : DecodeError → String
  | .invalidType found expected => "invalid type: " ++ describe found ++ ", expected " ++ expected
  | .invalidLength length expected =>
    "invalid length " ++ toString length ++ ", expected " ++ expected
  | .notSingleKey => "invalid value: map, expected map with a single key"
  | .unknownName name known =>
    "unknown variant `" ++ name ++ "`, expected " ++ alternatives known

end DecodeError

abbrev Decoder (α : Type) := Json → Except DecodeError α

namespace Json
variable {α : Type}

def asBool : Decoder Bool
  | .bool value => .ok value
  | value => .error (.invalidType value "a boolean")

def asString : Decoder String
  | .string value => .ok value
  | value => .error (.invalidType value "a string")

def asNumber : Decoder Number
  | .number value => .ok value
  | value => .error (.invalidType value "a number")

/-- Null stands for an absent value. -/
def asOptional (decode : Decoder α) : Decoder (Option α)
  | .null => .ok none
  | value => (decode value).map some

def asList (decode : Decoder α) : Decoder (List α)
  | .array items => items.mapM decode
  | value => .error (.invalidType value "a sequence")

def decodeEntries (decode : Decoder α) (members : Entries Json) :
    Except DecodeError (Entries α) :=
  members.mapM (fun member => (decode member.2).map (fun value => (member.1, value)))

def asMap (decode : Decoder α) : Decoder (OrderedMap α)
  | .object members => (decodeEntries decode members).map .ofEntries
  | value => .error (.invalidType value "a map")

/-- A name stands alone or is the only key of an object, with null under it. -/
def asName (decode : String → Except DecodeError α) : Decoder α
  | .string name => decode name
  | .object [(name, payload)] => do
    let value ← decode name
    if payload = .null then return value else throw (.invalidType payload "unit")
  | .object _ => .error .notSingleKey
  | value => .error (.invalidType value "string or map")

/-- A record is an object, whose unknown members `step` passes over, or a list that gives the
leading attributes by position. -/
def asRecord (name : String) (attributes : List String) (empty : α)
    (step : α → String × Json → Except DecodeError α) : Decoder α
  | .object members => members.foldlM step empty
  | .array items => do
    let record ← (attributes.zip items).foldlM step empty
    if attributes.length < items.length then
      throw (.invalidLength items.length "fewer elements in array")
    return record
  | value => .error (.invalidType value ("struct " ++ name))

end Json
end SchemaForms
