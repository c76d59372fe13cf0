import SchemaForms.Yaml.Token
/-! Documents as trees of scalars, sequences and mappings. A text that is not exactly one document
has no tree. -/
namespace SchemaForms.Yaml

/-- Scalars keep whether they were written without quotes, because only then does their form give
them a meaning beyond their text. -/
inductive Node where
  | scalar (text : String) (isPlain : Bool)
  | sequence (items : List Node)
  | mapping (entries : List (Node × Node))
deriving Inhabited

namespace Node

/-- Stands where nothing is written. -/
def empty : Node := .scalar "" true

/-- Whether a node that may be left out is left out before these tokens. -/
def isOmitted (followers : List Token) (tokens : List Token) : Bool :=
  tokens.head?.all followers.contains

mutual
/-- A node and the tokens after it. Block collections only start where `inBlock` allows them, and
sequences at the indentation of their key only where `isValue` does. -/
def read (fuel : Nat) (inBlock isValue : Bool) (tokens : List Token) :
    Option (Node × List Token) :=
  match fuel with
  | 0 => none
  | fuel + 1 =>
    match tokens with
    | .scalar text isPlain :: rest => some (.scalar text isPlain, rest)
    | .flowSequenceStart :: rest =>
      (readFlowItems fuel true rest).map fun (items, rest) => (.sequence items, rest)
    | .flowMappingStart :: rest =>
      (readFlowEntries fuel true rest).map fun (entries, rest) => (.mapping entries, rest)
    | .blockSequenceStart :: rest =>
      if inBlock then (readBlockItems fuel rest).map fun (items, rest) => (.sequence items, rest)
      else none
    | .blockMappingStart :: rest =>
      if inBlock then
        (readBlockEntries fuel rest).map fun (entries, rest) => (.mapping entries, rest)
      else none
    | .blockEntry :: rest =>
      if isValue then
        (readValueItems fuel (.blockEntry :: rest)).map fun (items, rest) =>
          (.sequence items, rest)
      else none
    | _ => none

/-- A node, or the empty one before a follower. -/
def readOptional (fuel : Nat) (inBlock isValue : Bool) (followers tokens : List Token) :
    Option (Node × List Token) :=
  match fuel with
  | 0 => none
  | fuel + 1 =>
    if isOmitted followers tokens then some (empty, tokens) else read fuel inBlock isValue tokens

def readBlockItems (fuel : Nat) (tokens : List Token) : Option (List Node × List Token) :=
  match fuel, tokens with
  | fuel + 1, .blockEntry :: rest => do
    let (item, rest) ← readOptional fuel true false [.blockEntry, .blockEnd] rest
    let (items, rest) ← readBlockItems fuel rest
    return (item :: items, rest)
  | _ + 1, .blockEnd :: rest => some ([], rest)
  | _, _ => none

/-- The items of a sequence at the indentation of its key. -/
def readValueItems (fuel : Nat) (tokens : List Token) : Option (List Node × List Token) :=
  match fuel, tokens with
  | 0, _ => none
  | fuel + 1, .blockEntry :: rest => do
    let (item, rest) ← readOptional fuel true false [.blockEntry, .key, .value, .blockEnd] rest
    let (items, rest) ← readValueItems fuel rest
    return (item :: items, rest)
  | _ + 1, rest => some ([], rest)

def readBlockEntries (fuel : Nat) (tokens : List Token) :
    Option (List (Node × Node) × List Token) :=
  match fuel, tokens with
  | fuel + 1, .key :: rest => do
    let (key, rest) ← readOptional fuel true true [.key, .value, .blockEnd] rest
    let (value, rest) ← readValue fuel true [.key, .value, .blockEnd] rest
    let (entries, rest) ← readBlockEntries fuel rest
    return ((key, value) :: entries, rest)
  | _ + 1, .blockEnd :: rest => some ([], rest)
  | _, _ => none

/-- The value after a colon; without a colon it is empty. -/
def readValue (fuel : Nat) (inBlock : Bool) (followers tokens : List Token) :
    Option (Node × List Token) :=
  match fuel, tokens with
  | 0, _ => none
  | fuel + 1, .value :: rest => readOptional fuel inBlock inBlock followers rest
  | _ + 1, rest => some (empty, rest)

def readFlowItems (fuel : Nat) (isFirst : Bool) (tokens : List Token) :
    Option (List Node × List Token) :=
  match fuel with
  | 0 => none
  | fuel + 1 =>
    match tokens with
    | .flowSequenceEnd :: rest => some ([], rest)
    | .flowEntry :: rest => if isFirst then none else readFlowItem fuel rest
    | tokens => if isFirst then readFlowItem fuel tokens else none

/-- The next item of a flow sequence, which may be a single entry of a mapping, and those after
it. -/
def readFlowItem (fuel : Nat) (tokens : List Token) : Option (List Node × List Token) :=
  match fuel with
  | 0 => none
  | fuel + 1 =>
    match tokens with
    | .flowSequenceEnd :: rest => some ([], rest)
    | .key :: rest => do
      let (key, rest) ← readOptional fuel false false [.value, .flowEntry, .flowSequenceEnd] rest
      let (value, rest) ← readValue fuel false [.flowEntry, .flowSequenceEnd] rest
      let (items, rest) ← readFlowItems fuel false rest
      return (.mapping [(key, value)] :: items, rest)
    | tokens => do
      let (item, rest) ← read fuel false false tokens
      let (items, rest) ← readFlowItems fuel false rest
      return (item :: items, rest)

def readFlowEntries (fuel : Nat) (isFirst : Bool) (tokens : List Token) :
    Option (List (Node × Node) × List Token) :=
  match fuel with
  | 0 => none
  | fuel + 1 =>
    match tokens with
    | .flowMappingEnd :: rest => some ([], rest)
    | .flowEntry :: rest => if isFirst then none else readFlowEntry fuel rest
    | tokens => if isFirst then readFlowEntry fuel tokens else none

/-- The next entry of a flow mapping and those after it. -/
def readFlowEntry (fuel : Nat) (tokens : List Token) :
    Option (List (Node × Node) × List Token) :=
  match fuel with
  | 0 => none
  | fuel + 1 =>
    match tokens with
    | .flowMappingEnd :: rest => some ([], rest)
    | .key :: rest => do
      let (key, rest) ← readOptional fuel false false [.value, .flowEntry, .flowMappingEnd] rest
      let (value, rest) ← readValue fuel false [.flowEntry, .flowMappingEnd] rest
      let (entries, rest) ← readFlowEntries fuel false rest
      return ((key, value) :: entries, rest)
    | tokens => do
      let (key, rest) ← read fuel false false tokens
      let (entries, rest) ← readFlowEntries fuel false rest
      return ((key, empty) :: entries, rest)
end

/-- Document ends may follow a document, and nothing else. -/
def endsStream (tokens : List Token) : Bool := tokens.all (· = .documentEnd)

/-- An empty text reads as an empty node. -/
def ofTokens? (tokens : List Token) : Option Node :=
  let fuel := 4 * tokens.length + 4
  let (isExplicit, tokens) := match tokens with
    | .documentStart :: rest => (true, rest)
    | tokens => (false, tokens)
  match tokens with
  | [] => some empty
  | tokens =>
    if isExplicit && endsStream tokens then some empty
    else match read fuel true false tokens with
      | some (node, rest) => if endsStream rest then some node else none
      | none => none

def parse? (text : String) : Option Node := (tokens? text).bind ofTokens?

end Node
end SchemaForms.Yaml
