import SchemaForms.Json.Basic
/-! Documents from text. Reading fails on anything but one document. A member named again takes the
later value at the earlier position. -/
namespace SchemaForms

namespace Json

def isBlank (c : Char) : Bool := c = ' ' || c = '\n' || c = '\t' || c = '\r'

def skipBlanks (text : List Char) : List Char := text.dropWhile isBlank

def hexValue? (c : Char) : Option Nat :=
  if c.isDigit then some (c.toNat - '0'.toNat)
  else if 'a' ≤ c ∧ c ≤ 'f' then some (c.toNat - 'a'.toNat + 10)
  else if 'A' ≤ c ∧ c ≤ 'F' then some (c.toNat - 'A'.toNat + 10)
  else none

def hexNumber? (digits : List Char) : Option Nat :=
  digits.foldlM (fun value digit => (hexValue? digit).map (16 * value + ·)) 0

def simpleEscape? : Char → Option Char
  | '"' => some '"'
  | '\\' => some '\\'
  | '/' => some '/'
  | 'b' => some '\x08'
  | 'f' => some '\x0c'
  | 'n' => some '\n'
  | 'r' => some '\r'
  | 't' => some '\t'
  | _ => none

/-- The character that two halves of an escaped pair stand for. -/
def pairedChar (high low : Nat) : Char :=
  Char.ofNat (0x10000 + (high - 0xD800) * 0x400 + (low - 0xDC00))

def isHighHalf (code : Nat) : Bool := 0xD800 ≤ code && code < 0xDC00

def isLowHalf (code : Nat) : Bool := 0xDC00 ≤ code && code < 0xE000

/-- The text up to the closing quote and what follows it. -/
def readString : List Char → Option (List Char × List Char)
  | [] => none
  | '"' :: rest => some ([], rest)
  | '\\' :: 'u' :: a :: b :: c :: d :: rest => do
    let code ← hexNumber? [a, b, c, d]
    if isLowHalf code then none
    else if isHighHalf code then
      match rest with
      | '\\' :: 'u' :: e :: f :: g :: h :: rest =>
        let low ← hexNumber? [e, f, g, h]
        if isLowHalf low then
          let (text, rest) ← readString rest
          return (pairedChar code low :: text, rest)
        else none
      | _ => none
    else
      let (text, rest) ← readString rest
      return (Char.ofNat code :: text, rest)
  | '\\' :: c :: rest => do
    let c ← simpleEscape? c
    let (text, rest) ← readString rest
    return (c :: text, rest)
  | c :: rest =>
    if c.toNat < 0x20 ∨ c = '\\' then none
    else do
      let (text, rest) ← readString rest
      return (c :: text, rest)

def digitsValue (digits : List Char) : Nat :=
  digits.foldl (fun value digit => 10 * value + (digit.toNat - '0'.toNat)) 0

/-- Appends digits to a number as long as it fits in 64 bits, and returns how many are left. -/
def appendDigits (value : Nat) : List Char → Nat × Nat
  | [] => (value, 0)
  | digit :: rest =>
    let next := 10 * value + (digit.toNat - '0'.toNat)
    if next < Nat.pow 2 64 then appendDigits next rest else (value, rest.length + 1)

def powerOfTen (exponent : Nat) : Binary64 := .ofRatio false (Nat.pow 10 exponent) 1

/-- Applies a power of ten in steps of at most 308 places, rounding each; none on overflow. -/
def scale (fuel : Nat) (value : Binary64) (exponent : Int) : Option Binary64 :=
  if 308 < exponent then if value.isZero then some value else none
  else if 0 ≤ exponent then
    let scaled := value.mul (powerOfTen exponent.toNat)
    if scaled.isFinite then some scaled else none
  else if -308 ≤ exponent then some (value.div (powerOfTen (-exponent).toNat))
  else match fuel with
    | 0 => some (.ofMagnitude false 0)
    | fuel + 1 => scale fuel (value.div (powerOfTen 308)) (exponent + 308)

/-- The digits that fit in 64 bits are rounded first, and once more when they are scaled. -/
def readFloat (negative : Bool) (whole fraction : List Char) (exponent : Int) :
    Option Binary64 := do
  let (value, dropped) := appendDigits 0 whole
  let (value, unread) := appendDigits value fraction
  let exponent := exponent + dropped - (fraction.length - unread : Nat)
  let result ← scale 4 (.ofRatio false value 1) exponent
  return if negative then result.neg else result

/-- Digits after a mark, of which there is at least one if the mark is there. -/
def readDigits (text : List Char) : Option (List Char × List Char) :=
  let digits := text.takeWhile Char.isDigit
  if digits.isEmpty then none else some (digits, text.dropWhile Char.isDigit)

def readExponent : List Char → Option (Option Int × List Char)
  | [] => some (none, [])
  | mark :: rest =>
    if mark = 'e' ∨ mark = 'E' then do
      let (negative, rest) := match rest with
        | '-' :: rest => (true, rest)
        | '+' :: rest => (false, rest)
        | rest => (false, rest)
      let (digits, rest) ← readDigits rest
      let value : Int := digitsValue digits
      return (some (if negative then -value else value), rest)
    else some (none, mark :: rest)

def readNumber (text : List Char) : Option (Number × List Char) := do
  let (negative, text) := match text with
    | '-' :: rest => (true, rest)
    | rest => (false, rest)
  let (whole, rest) ← readDigits text
  if whole.length ≠ 1 ∧ whole.head? = some '0' then none
  let (fraction, rest) ← match rest with
    | '.' :: rest => readDigits rest
    | rest => pure ([], rest)
  let (exponent, rest) ← readExponent rest
  let value : Int := if negative then -digitsValue whole else digitsValue whole
  let isExact := fraction.isEmpty && exponent.isNone && !(negative && value = 0) &&
    (-Int.pow 2 63 ≤ value && value < Int.pow 2 64 : Bool)
  if isExact then return (.int value, rest)
  let value ← readFloat negative whole fraction (exponent.getD 0)
  return (.float value, rest)

def readWord (word : String) (value : Json) (text : List Char) : Option (Json × List Char) :=
  if word.toList.isPrefixOf text then some (value, text.drop word.length) else none

mutual
def readValue (fuel : Nat) (text : List Char) : Option (Json × List Char) :=
  match fuel with
  | 0 => none
  | fuel + 1 =>
    match skipBlanks text with
    | '"' :: rest => (readString rest).map fun (text, rest) => (.string (String.ofList text), rest)
    | '[' :: rest =>
      match skipBlanks rest with
      | ']' :: rest => some (.array [], rest)
      | rest => (readItems fuel rest).map fun (items, rest) => (.array items, rest)
    | '\x7b' :: rest =>
      match skipBlanks rest with
      | '\x7d' :: rest => some (.object [], rest)
      | rest => (readMembers fuel [] rest).map fun (members, rest) => (.object members, rest)
    | 'n' :: rest => readWord "null" .null ('n' :: rest)
    | 't' :: rest => readWord "true" (.bool true) ('t' :: rest)
    | 'f' :: rest => readWord "false" (.bool false) ('f' :: rest)
    | text => (readNumber text).map fun (value, rest) => (.number value, rest)

def readItems (fuel : Nat) (text : List Char) : Option (List Json × List Char) :=
  match fuel with
  | 0 => none
  | fuel + 1 => do
    let (item, rest) ← readValue fuel text
    match skipBlanks rest with
    | ',' :: rest =>
      let (items, rest) ← readItems fuel rest
      return (item :: items, rest)
    | ']' :: rest => return ([item], rest)
    | _ => none

def readMembers (fuel : Nat) (read : Entries Json) (text : List Char) :
    Option (Entries Json × List Char) :=
  match fuel with
  | 0 => none
  | fuel + 1 =>
    match skipBlanks text with
    | '"' :: rest => do
      let (key, rest) ← readString rest
      match skipBlanks rest with
      | ':' :: rest =>
        let (value, rest) ← readValue fuel rest
        let members := Entries.insert read (String.ofList key) value
        match skipBlanks rest with
        | ',' :: rest => readMembers fuel members rest
        | '\x7d' :: rest => return (members, rest)
        | _ => none
      | _ => none
    | _ => none
end

/-- Every step of the reader consumes a character or enters one level of a document. -/
def parse? (text : String) : Option Json := do
  let chars := text.toList
  let (value, rest) ← readValue (2 * chars.length + 2) chars
  if (skipBlanks rest).isEmpty then some value else none

end Json
end SchemaForms
