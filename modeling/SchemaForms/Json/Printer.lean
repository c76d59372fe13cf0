import SchemaForms.Json.Basic
import SchemaForms.Binary64.Shortest
/-! Documents as text, on one line or indented by two spaces a level. -/
namespace SchemaForms

def Number.text : Number → String
  | .int value => toString value
  | .float value => value.text

namespace Json

def hexDigit (n : Nat) : Char := (Nat.toDigits 16 n).headD '0'

/-- Quotes, backslashes and control characters are escaped, and nothing else. -/
def escapeChar (c : Char) : List Char :=
  match c with
  | '"' => ['\\', '"']
  | '\\' => ['\\', '\\']
  | '\n' => ['\\', 'n']
  | '\t' => ['\\', 't']
  | '\r' => ['\\', 'r']
  | '\x08' => ['\\', 'b']
  | '\x0c' => ['\\', 'f']
  | c =>
    if c.toNat < 0x20 then
      ['\\', 'u', '0', '0', hexDigit (c.toNat / 16), hexDigit (c.toNat % 16)]
    else [c]

def stringText (value : String) : String :=
  String.ofList ('"' :: value.toList.flatMap escapeChar ++ ['"'])

mutual
def compact : Json → String
  | .null => "null"
  | .bool value => if value then "true" else "false"
  | .number value => value.text
  | .string value => stringText value
  | .array items => "[" ++ ",".intercalate (compactItems items) ++ "]"
  | .object members => "\x7b" ++ ",".intercalate (compactMembers members) ++ "\x7d"

def compactItems : List Json → List String
  | [] => []
  | item :: rest => compact item :: compactItems rest

def compactMembers : List (String × Json) → List String
  | [] => []
  | (key, value) :: rest => (stringText key ++ ":" ++ compact value) :: compactMembers rest
end

def newline (depth : Nat) : String := String.ofList ('\n' :: List.replicate (2 * depth) ' ')

/-- Lines between two brackets, one level deeper than the brackets. -/
def block (opening closing : String) (depth : Nat) (lines : List String) : String :=
  opening ++ newline (depth + 1) ++ ("," ++ newline (depth + 1)).intercalate lines ++
    newline depth ++ closing

mutual
def prettyAt (depth : Nat) : Json → String
  | .array [] => "[]"
  | .array items => block "[" "]" depth (prettyItems (depth + 1) items)
  | .object [] => "\x7b\x7d"
  | .object members => block "\x7b" "\x7d" depth (prettyMembers (depth + 1) members)
  | .null => "null"
  | .bool value => if value then "true" else "false"
  | .number value => value.text
  | .string value => stringText value

def prettyItems (depth : Nat) : List Json → List String
  | [] => []
  | item :: rest => prettyAt depth item :: prettyItems depth rest

def prettyMembers (depth : Nat) : List (String × Json) → List String
  | [] => []
  | (key, value) :: rest =>
    (stringText key ++ ": " ++ prettyAt depth value) :: prettyMembers depth rest
end

def pretty (value : Json) : String := prettyAt 0 value

end Json
end SchemaForms
