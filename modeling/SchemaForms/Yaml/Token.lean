import SchemaForms.Yaml.ScalarText
/-! Tokens of a source text. Indentation opens and closes block collections; a scalar or a flow
collection turns out to be a key only at the colon after it, and the tokens for that are inserted
before it. Anchors, tags, directives and block scalars are not part of the language. -/
namespace SchemaForms.Yaml

inductive Token where
  | documentStart
  | documentEnd
  | blockSequenceStart
  | blockMappingStart
  | blockEnd
  | flowSequenceStart
  | flowSequenceEnd
  | flowMappingStart
  | flowMappingEnd
  | blockEntry
  | flowEntry
  | key
  | value
  | scalar (text : String) (isPlain : Bool)
deriving DecidableEq

/-- A place in the text that may turn out to be the start of a key. -/
structure PossibleKey where
  /-- The number of tokens before it. -/
  place : Nat
  start : Mark
  isRequired : Bool

/-- State between two tokens: the tokens so far, last first, the columns of the open block
collections, innermost first, and the possible key of each flow level, innermost first. -/
structure Scan where
  tokens : List Token := []
  count : Nat := 0
  indents : List Nat := []
  keys : List (Option PossibleKey) := [none]
  keyAllowed : Bool := true

namespace Scan

def inFlow (scan : Scan) : Bool := 1 < scan.keys.length

def push (scan : Scan) (token : Token) : Scan :=
  { scan with tokens := token :: scan.tokens, count := scan.count + 1 }

def insertAt (scan : Scan) (place : Nat) (token : Token) : Scan :=
  let later := scan.count - place
  { scan with
    tokens := scan.tokens.take later ++ token :: scan.tokens.drop later
    count := scan.count + 1 }

def allowKey (scan : Scan) (allowed : Bool) : Scan := { scan with keyAllowed := allowed }

/-- Opens a block collection at a column right of the innermost one. -/
def rollIndent (scan : Scan) (column place : Nat) (token : Token) : Scan :=
  if !scan.inFlow && scan.indents.head?.all (· < column) then
    { scan with indents := column :: scan.indents }.insertAt place token
  else scan

/-- Closes the block collections right of a column. -/
def unrollIndent (scan : Scan) (isRight : Nat → Bool) : Scan :=
  if scan.inFlow then scan
  else
    let closed := scan.indents.takeWhile isRight
    { scan with
      indents := scan.indents.drop closed.length
      tokens := List.replicate closed.length .blockEnd ++ scan.tokens
      count := scan.count + closed.length }

/-- A key ends on the line where it starts and within 1024 characters. -/
def isStale (mark : Mark) (key : PossibleKey) : Bool :=
  key.start.line < mark.line || key.start.index + 1024 < mark.index

def dropStaleKeys? (scan : Scan) (mark : Mark) : Option Scan := do
  let keys ← scan.keys.mapM fun key => match key with
    | none => some none
    | some key =>
      if isStale mark key then if key.isRequired then none else some none else some (some key)
  return { scan with keys }

def removeKey? (scan : Scan) : Option Scan :=
  match scan.keys with
  | some key :: outer => if key.isRequired then none else some { scan with keys := none :: outer }
  | _ => some scan

/-- Remembers that a key may start here. In a block mapping nothing else can. -/
def saveKey? (scan : Scan) (mark : Mark) : Option Scan :=
  if scan.keyAllowed then do
    let scan ← scan.removeKey?
    let isRequired := !scan.inFlow && scan.indents.head? = some mark.column
    return { scan with keys := some ⟨scan.count, mark, isRequired⟩ :: scan.keys.drop 1 }
  else some scan

def openFlow? (scan : Scan) (mark : Mark) (token : Token) : Option Scan := do
  let scan ← scan.saveKey? mark
  return { scan with keys := none :: scan.keys }.allowKey true |>.push token

def closeFlow? (scan : Scan) (token : Token) : Option Scan := do
  let scan ← scan.removeKey?
  let keys := if scan.inFlow then scan.keys.drop 1 else scan.keys
  return { scan with keys }.allowKey false |>.push token

def flowEntry? (scan : Scan) : Option Scan := do
  return (← scan.removeKey?).allowKey true |>.push .flowEntry

def blockEntry? (scan : Scan) (mark : Mark) : Option Scan := do
  if !scan.inFlow && !scan.keyAllowed then none
  let scan := scan.rollIndent mark.column scan.count .blockSequenceStart
  return (← scan.removeKey?).allowKey true |>.push .blockEntry

def explicitKey? (scan : Scan) (mark : Mark) : Option Scan := do
  if !scan.inFlow && !scan.keyAllowed then none
  let scan := scan.rollIndent mark.column scan.count .blockMappingStart
  return (← scan.removeKey?).allowKey (!scan.inFlow) |>.push .key

def value? (scan : Scan) (mark : Mark) : Option Scan :=
  match scan.keys with
  | some key :: outer =>
    let scan := { scan with keys := none :: outer }.insertAt key.place .key
    some ((scan.rollIndent key.start.column key.place .blockMappingStart).allowKey false
      |>.push .value)
  | _ =>
    if !scan.inFlow && !scan.keyAllowed then none
    else
      let scan := scan.rollIndent mark.column scan.count .blockMappingStart
      some ((scan.allowKey (!scan.inFlow)).push .value)

def documentMarker? (scan : Scan) (token : Token) : Option Scan := do
  let scan ← (scan.unrollIndent (fun _ => true)).removeKey?
  return (scan.allowKey false).push token

def scalar? (scan : Scan) (mark : Mark) (text : List Char) (isPlain keyAllowed : Bool) :
    Option Scan := do
  let scan ← scan.saveKey? mark
  return (scan.allowKey keyAllowed).push (.scalar (String.ofList text) isPlain)

end Scan

/-- Passes over blanks, comments and line breaks, and says whether a key may follow. Tabs do not
count as blanks where they could be taken for indentation. -/
def skipGap (inFlow keyAllowed inComment : Bool) : List Mark → Bool × List Mark
  | [] => (keyAllowed, [])
  | mark :: rest =>
    if mark.isBreak then skipGap inFlow (keyAllowed || !inFlow) false rest
    else if inComment then skipGap inFlow keyAllowed true rest
    else if mark.char = ' ' ∨ (mark.char = '\t' ∧ (inFlow ∨ !keyAllowed)) then
      skipGap inFlow keyAllowed false rest
    else if mark.char = '#' then skipGap inFlow keyAllowed true rest
    else (keyAllowed, mark :: rest)

/-- Characters that cannot start an unquoted scalar, some only before a blank. -/
def isIndicator (c : Char) : Bool :=
  ['-', '?', ':', ',', '[', ']', '\x7b', '\x7d', '#', '&', '*', '!', '|', '>', '\'', '"', '%', '@',
    '\x60'].contains c

/-- A tab in front of a line is no indentation and no scalar either. -/
def startsPlain (inFlow : Bool) (mark : Mark) (rest : List Mark) : Bool :=
  (!isIndicator mark.char && !mark.isBlank) || (mark.char = '-' && !endsWord rest) ||
    (!inFlow && (mark.char = '?' || mark.char = ':') && !endsWord rest)

/-- The token that starts at a mark, and what follows it. -/
def Scan.token? (scan : Scan) (mark : Mark) (rest : List Mark) : Option (Scan × List Mark) :=
  let all := mark :: rest
  let followedBy (result : Option Scan) (rest : List Mark) : Option (Scan × List Mark) :=
    result.map (·, rest)
  if mark.column = 0 ∧ mark.char = '%' then none
  else if isDocumentMarker '-' all then followedBy (scan.documentMarker? .documentStart) (all.drop 3)
  else if isDocumentMarker '.' all then followedBy (scan.documentMarker? .documentEnd) (all.drop 3)
  else match mark.char with
    | '[' => followedBy (scan.openFlow? mark .flowSequenceStart) rest
    | '\x7b' => followedBy (scan.openFlow? mark .flowMappingStart) rest
    | ']' => followedBy (scan.closeFlow? .flowSequenceEnd) rest
    | '\x7d' => followedBy (scan.closeFlow? .flowMappingEnd) rest
    | ',' => followedBy scan.flowEntry? rest
    | '\'' => do
      let (text, rest) ← readSingleQuoted [] {} rest
      followedBy (scan.scalar? mark text false false) rest
    | '"' => do
      let (text, rest) ← readDoubleQuoted .outside [] {} rest
      followedBy (scan.scalar? mark text false false) rest
    | c =>
      if c = '-' ∧ endsWord rest then followedBy (scan.blockEntry? mark) rest
      else if c = '?' ∧ (scan.inFlow ∨ endsWord rest) then followedBy (scan.explicitKey? mark) rest
      else if c = ':' ∧ (scan.inFlow ∨ endsWord rest) then followedBy (scan.value? mark) rest
      else if startsPlain scan.inFlow mark rest then do
        let indent := (scan.indents.head?.map (· + 1)).getD 0
        let (text, isFolded, rest) ← readPlain scan.inFlow indent [] {} all
        followedBy (scan.scalar? mark text true isFolded) rest
      else none

/-- At the end no block collection stays open and no key waits for its colon. -/
def Scan.finish? (scan : Scan) : Option (List Token) :=
  if scan.keys.any (fun key => key.any PossibleKey.isRequired) then none
  else some (scan.unrollIndent (fun _ => true)).tokens.reverse

/-- Every token takes at least one character. -/
def tokensFrom? (fuel : Nat) (scan : Scan) (marks : List Mark) : Option (List Token) :=
  match skipGap scan.inFlow scan.keyAllowed false marks with
  | (_, []) => scan.finish?
  | (keyAllowed, mark :: rest) =>
    match fuel with
    | 0 => none
    | fuel + 1 => do
      let scan ← (scan.allowKey keyAllowed).dropStaleKeys? mark
      let (scan, rest) ← (scan.unrollIndent (mark.column < ·)).token? mark rest
      tokensFrom? fuel scan rest

def tokens? (text : String) : Option (List Token) := do
  let marks ← marks? text
  tokensFrom? marks.length {} marks

end SchemaForms.Yaml
