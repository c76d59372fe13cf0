/-! Characters of a source text with their positions. Every way to end a line reads as one line
break. -/
namespace SchemaForms.Yaml

structure Mark where
  char : Char
  index : Nat
  line : Nat
  column : Nat
deriving DecidableEq

/-- Characters that may stand in a source text. -/
def isAllowed (c : Char) : Bool :=
  let n := c.toNat
  n = 0x09 || n = 0x0A || n = 0x0D || (0x20 ≤ n && n ≤ 0x7E) || n = 0x85 ||
    (0xA0 ≤ n && n ≤ 0xFFFD && n ≠ 0xFEFF) || 0x10000 ≤ n

def isBreak (c : Char) : Bool := c = '\n' || c = '\u2028' || c = '\u2029'

def isBlank (c : Char) : Bool := c = ' ' || c = '\t'

/-- Carriage returns and next-line characters become line feeds; a return with its line feed is
one break. -/
def withPlainBreaks : List Char → List Char
  | [] => []
  | '\r' :: '\n' :: rest => '\n' :: withPlainBreaks rest
  | '\r' :: rest => '\n' :: withPlainBreaks rest
  | '\u0085' :: rest => '\n' :: withPlainBreaks rest
  | c :: rest => c :: withPlainBreaks rest

def marksFrom (index line column : Nat) : List Char → List Mark
  | [] => []
  | c :: rest =>
    ⟨c, index, line, column⟩ ::
      if isBreak c then marksFrom (index + 1) (line + 1) 0 rest
      else marksFrom (index + 1) line (column + 1) rest

/-- A byte order mark may come first. -/
def marks? (text : String) : Option (List Mark) :=
  let chars := match text.toList with
    | '\uFEFF' :: rest => rest
    | chars => chars
  if chars.all isAllowed then some (marksFrom 0 0 0 (withPlainBreaks chars)) else none

namespace Mark

def isBreak (mark : Mark) : Bool := Yaml.isBreak mark.char

def isBlank (mark : Mark) : Bool := Yaml.isBlank mark.char

end Mark

/-- The text ends here, or the next character separates words. -/
def endsWord : List Mark → Bool
  | [] => true
  | mark :: _ => mark.isBlank || mark.isBreak

/-- Three dashes or three dots at the start of a line separate documents. -/
def isDocumentMarker (char : Char) : List Mark → Bool
  | a :: b :: c :: rest =>
    a.column = 0 && a.char = char && b.char = char && c.char = char && endsWord rest
  | _ => false

def startsDocumentMarker (marks : List Mark) : Bool :=
  isDocumentMarker '-' marks || isDocumentMarker '.' marks

end SchemaForms.Yaml
