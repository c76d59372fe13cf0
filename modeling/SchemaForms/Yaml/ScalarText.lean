import SchemaForms.Yaml.Mark
import SchemaForms.Json.Reader
/-! The texts of scalars, which may run over several lines. Each function returns the text and what
follows it. -/
namespace SchemaForms.Yaml

/-- White space between two pieces of a scalar. The breaks are `lead` and then `trail`; after an
escaped break `lead` is empty. -/
structure Gap where
  blanks : List Char := []
  isFolded : Bool := false
  lead : List Char := []
  trail : List Char := []

namespace Gap

def addBlank (gap : Gap) (c : Char) : Gap :=
  if gap.isFolded then gap else { gap with blanks := gap.blanks ++ [c] }

def addBreak (gap : Gap) (c : Char) : Gap :=
  if gap.isFolded then { gap with trail := gap.trail ++ [c] }
  else { isFolded := true, lead := [c] }

def escapedBreak : Gap := { isFolded := true }

/-- A single break reads as a space and the first of several is dropped. -/
def text (gap : Gap) : List Char :=
  if gap.isFolded then
    if gap.lead = ['\n'] then if gap.trail.isEmpty then [' '] else gap.trail
    else gap.lead ++ gap.trail
  else gap.blanks

/-- The pieces so far, last character first, with the gap after them. -/
def after (gap : Gap) (text : List Char) : List Char := gap.text.reverse ++ text

end Gap

def isFlowIndicator (c : Char) : Bool :=
  c = ',' || c = '[' || c = ']' || c = '\x7b' || c = '\x7d'

/-- Whether an unquoted scalar ends at the character after a gap. -/
def plainEndsAfter (inFlow : Bool) (indent : Nat) (gap : Gap) (mark : Mark)
    (rest : List Mark) : Bool :=
  (gap.isFolded || !gap.blanks.isEmpty) &&
    (mark.char = '#' || (gap.isFolded && startsDocumentMarker (mark :: rest)) ||
      (!inFlow && gap.isFolded && mark.column < indent))

/-- Whether an unquoted scalar ends at the character itself. -/
def plainEndsAt (inFlow : Bool) (mark : Mark) (rest : List Mark) : Bool :=
  (mark.char = ':' && endsWord rest) || (inFlow && isFlowIndicator mark.char)

/-- A colon in a flow collection must not be followed directly by an indicator. -/
def isStrayColon (inFlow : Bool) (mark : Mark) (rest : List Mark) : Bool :=
  inFlow && mark.char = ':' &&
    rest.head?.any (fun next => isFlowIndicator next.char || next.char = '?')

/-- An unquoted scalar, and whether a line break follows it. Continuation lines start at `indent`
or further right; `text` is what has been read, last character first. -/
def readPlain (inFlow : Bool) (indent : Nat) (text : List Char) (gap : Gap) :
    List Mark → Option (List Char × Bool × List Mark)
  | [] => some (text.reverse, gap.isFolded, [])
  | mark :: rest =>
    if mark.isBreak then readPlain inFlow indent text (gap.addBreak mark.char) rest
    else if mark.isBlank then
      if gap.isFolded ∧ mark.char = '\t' ∧ mark.column < indent then none
      else readPlain inFlow indent text (gap.addBlank mark.char) rest
    else if plainEndsAfter inFlow indent gap mark rest then
      some (text.reverse, gap.isFolded, mark :: rest)
    else if isStrayColon inFlow mark rest then none
    else if plainEndsAt inFlow mark rest then some (text.reverse, gap.isFolded, mark :: rest)
    else readPlain inFlow indent (mark.char :: gap.after text) {} rest

/-- After the opening apostrophe; two apostrophes stand for one. -/
def readSingleQuoted (text : List Char) (gap : Gap) : List Mark → Option (List Char × List Mark)
  | [] => none
  | mark :: rest =>
    if mark.isBreak then readSingleQuoted text (gap.addBreak mark.char) rest
    else if mark.isBlank then readSingleQuoted text (gap.addBlank mark.char) rest
    else if startsDocumentMarker (mark :: rest) then none
    else if mark.char = '\'' then
      match rest with
      | next :: more =>
        if next.char = '\'' then readSingleQuoted ('\'' :: gap.after text) {} more
        else some ((gap.after text).reverse, next :: more)
      | [] => some ((gap.after text).reverse, [])
    else readSingleQuoted (mark.char :: gap.after text) {} rest

/-- How far an escape has been read. -/
inductive EscapeState where
  | outside
  | begun
  | digits (left value : Nat)

def escapeValue? : Char → Option Char
  | '0' => some '\x00'
  | 'a' => some '\x07'
  | 'b' => some '\x08'
  | 't' => some '\t'
  | '\t' => some '\t'
  | 'n' => some '\n'
  | 'v' => some '\x0b'
  | 'f' => some '\x0c'
  | 'r' => some '\r'
  | 'e' => some '\x1b'
  | ' ' => some ' '
  | '"' => some '"'
  | '/' => some '/'
  | '\\' => some '\\'
  | 'N' => some '\u0085'
  | '_' => some '\u00A0'
  | 'L' => some '\u2028'
  | 'P' => some '\u2029'
  | _ => none

def escapeDigits? : Char → Option Nat
  | 'x' => some 2
  | 'u' => some 4
  | 'U' => some 8
  | _ => none

def charOfCode? (code : Nat) : Option Char :=
  if code.isValidChar then some (Char.ofNat code) else none

/-- After the opening quotation mark. -/
def readDoubleQuoted (state : EscapeState) (text : List Char) (gap : Gap) :
    List Mark → Option (List Char × List Mark)
  | [] => none
  | mark :: rest =>
    match state with
    | .digits left value => do
      let value := 16 * value + (← Json.hexValue? mark.char)
      if left = 1 then
        readDoubleQuoted .outside ((← charOfCode? value) :: text) {} rest
      else readDoubleQuoted (.digits (left - 1) value) text {} rest
    | .begun =>
      if mark.isBreak then readDoubleQuoted .outside text .escapedBreak rest
      else match escapeDigits? mark.char with
        | some count => readDoubleQuoted (.digits count 0) text {} rest
        | none => do readDoubleQuoted .outside ((← escapeValue? mark.char) :: text) {} rest
    | .outside =>
      if mark.isBreak then readDoubleQuoted .outside text (gap.addBreak mark.char) rest
      else if mark.isBlank then readDoubleQuoted .outside text (gap.addBlank mark.char) rest
      else if startsDocumentMarker (mark :: rest) then none
      else if mark.char = '"' then some ((gap.after text).reverse, rest)
      else if mark.char = '\\' then readDoubleQuoted .begun (gap.after text) {} rest
      else readDoubleQuoted .outside (mark.char :: gap.after text) {} rest

end SchemaForms.Yaml
