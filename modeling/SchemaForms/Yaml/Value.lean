import SchemaForms.Yaml.Node
/-! What the nodes of a document stand for: typed values where a type is expected, and otherwise
the value that the form of an unquoted scalar suggests. -/
namespace SchemaForms.Yaml

def stripSign (text : List Char) : List Char :=
  match text with
  | '+' :: rest => rest
  | '-' :: rest => rest
  | text => text

def isNullText (text : String) : Bool :=
  text = "" || text = "null" || text = "Null" || text = "NULL" || text = "~"

def boolText? (text : String) : Option Bool :=
  if ["true", "True", "TRUE"].contains text then some true
  else if ["false", "False", "FALSE"].contains text then some false
  else none

/-- Digits with a leading zero are a text and not a number. -/
def hasLeadingZero (text : List Char) : Bool :=
  let digits := stripSign text
  1 < digits.length && digits.head? = some '0' && digits.all Char.isDigit

def digitIn? (base : Nat) (c : Char) : Option Nat :=
  (Json.hexValue? c).filter (· < base)

/-- A number written in digits of a base, of which there is at least one. -/
def naturalIn? (base : Nat) (digits : List Char) : Option Nat :=
  if digits.isEmpty then none
  else digits.foldlM (fun value c => (digitIn? base c).map (base * value + ·)) 0

/-- Binary, octal and hexadecimal numbers carry a mark; decimal ones do not. -/
def natural? (text : List Char) : Option Nat :=
  match text with
  | '0' :: 'x' :: digits => naturalIn? 16 digits
  | '0' :: 'o' :: digits => naturalIn? 8 digits
  | '0' :: 'b' :: digits => naturalIn? 2 digits
  | digits => if hasLeadingZero digits then none else naturalIn? 10 digits

def integer? (text : List Char) : Option Int :=
  match text with
  | '-' :: rest => (natural? rest).map (fun value => -(value : Int))
  | '+' :: rest => (natural? rest).map Int.ofNat
  | text => (natural? text).map Int.ofNat

/-- An exponent with its mark, or nothing at the end of the number. -/
def exponent? : List Char → Option Int
  | [] => some 0
  | mark :: rest =>
    if mark ≠ 'e' ∧ mark ≠ 'E' then none
    else match rest with
      | '-' :: digits => (naturalIn? 10 digits).map (fun value => -(value : Int))
      | '+' :: digits => (naturalIn? 10 digits).map Int.ofNat
      | digits => (naturalIn? 10 digits).map Int.ofNat

/-- Digits with a point anywhere among them, or none, and an exponent. -/
def decimal? (isNegative : Bool) (text : List Char) : Option Binary64 := do
  let whole := text.takeWhile Char.isDigit
  let rest := text.dropWhile Char.isDigit
  let (fraction, rest) := match rest with
    | '.' :: rest => (rest.takeWhile Char.isDigit, rest.dropWhile Char.isDigit)
    | rest => ([], rest)
  let digits ← naturalIn? 10 (whole ++ fraction)
  let exponent ← exponent? rest
  let value := Binary64.ofDecimal isNegative digits (exponent - fraction.length)
  if value.isFinite then some value else none

def float? (text : List Char) : Option Binary64 :=
  if hasLeadingZero text then none
  else match text with
    | '-' :: rest => decimal? true rest
    | '+' :: rest => decimal? false rest
    | text => decimal? false text

/-- Infinities and the value that is no number. A document has no other form of them than null. -/
def isSpecialFloat (text : String) : Bool :=
  [".inf", ".Inf", ".INF", "+.inf", "+.Inf", "+.INF", "-.inf", "-.Inf", "-.INF", ".nan", ".NaN",
    ".NAN"].contains text

/-- Whole numbers up to 128 bits are recognised and those beyond 64 bits refused; larger ones read
as rounded numbers. -/
def plainNumber? (text : String) : Option (Option Number) :=
  let chars := text.toList
  let rounded := (float? chars).map (fun value => some (.float value))
  match integer? chars with
  | some value =>
    if -Int.pow 2 63 ≤ value ∧ value < Int.pow 2 64 then some (some (.int value))
    else if -Int.pow 2 127 ≤ value ∧ value < Int.pow 2 128 then some none
    else rounded
  | none => rounded

/-- The value of an unquoted scalar, unless it is a number that cannot be represented. -/
def plainValue? (text : String) : Option Json :=
  if isNullText text || isSpecialFloat text then some .null
  else match boolText? text with
    | some value => some (.bool value)
    | none => match plainNumber? text with
      | some number => number.map .number
      | none => some (.string text)

namespace Node

def isNull : Node → Bool
  | .scalar text isPlain => isPlain && isNullText text
  | _ => false

def isMapping : Node → Bool
  | .mapping _ => true
  | _ => false

/-- Every scalar has a text. -/
def text? : Node → Option String
  | .scalar text _ => some text
  | _ => none

def isEmptyPlain : Node → Bool
  | .scalar text isPlain => isPlain && text = ""
  | _ => false

/-- An empty node reads as an empty sequence. -/
def items? : Node → Option (List Node)
  | .sequence items => some items
  | node => if node.isEmptyPlain then some [] else none

/-- The entries of a mapping whose keys are scalars. An empty node reads as an empty mapping. -/
def entries? : Node → Option (Entries Node)
  | .mapping entries => entries.mapM fun entry => (text? entry.1).map (·, entry.2)
  | node => if node.isEmptyPlain then some [] else none

/-- A node that may be absent or null. -/
def optional? {α : Type} (decode : Node → Option α) (node : Node) : Option (Option α) :=
  if node.isNull then some none else (decode node).map some

def list? {α : Type} (decode : Node → Option α) (node : Node) : Option (List α) :=
  node.items?.bind (List.mapM decode)

/-- A key given again takes the later value at the earlier position. -/
def map? {α : Type} (decode : Node → Option α) (node : Node) : Option (OrderedMap α) := do
  let entries ← node.entries?
  let values ← entries.mapM fun entry => (decode entry.2).map (entry.1, ·)
  return .ofEntries values

/-- The entries of a record; each of its attributes may be given once. -/
def record? (attributes : List String) (node : Node) : Option (Entries Node) := do
  let entries ← node.entries?
  if ((Entries.keys entries).filter attributes.contains).Nodup then some entries else none

mutual
def toJson? : Node → Option Json
  | .scalar text isPlain => if isPlain then plainValue? text else some (.string text)
  | .sequence items => (itemsToJson? items).map .array
  | .mapping entries => (entriesToJson? [] entries).map .object

def itemsToJson? : List Node → Option (List Json)
  | [] => some []
  | item :: rest => do return (← toJson? item) :: (← itemsToJson? rest)

def entriesToJson? (members : Entries Json) : List (Node × Node) → Option (Entries Json)
  | [] => some members
  | (.scalar key _, value) :: rest => do
    entriesToJson? (Entries.insert members key (← toJson? value)) rest
  | _ => none
end

end Node
end SchemaForms.Yaml
