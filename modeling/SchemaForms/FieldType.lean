import SchemaForms.Json.Decode
/-! Types of form fields and of table columns, with the names documents use for them. -/
namespace SchemaForms

inductive FieldType where
  | text
  | memo
  | email
  | url
  | number
  | boolean
  | date
  | dateTime
  | time
  | select
  | radio
  | checklist
  | autocomplete
  | hidden
  | html
  | smallText
  | files
  | table
  | submit
deriving DecidableEq, Repr, Inhabited

namespace FieldType

def all : List FieldType :=
  [.text, .memo, .email, .url, .number, .boolean, .date, .dateTime, .time, .select, .radio,
   .checklist, .autocomplete, .hidden, .html, .smallText, .files, .table, .submit]

def name : FieldType → String
  | .text => "text"
  | .memo => "memo"
  | .email => "email"
  | .url => "url"
  | .number => "number"
  | .boolean => "boolean"
  | .date => "date"
  | .dateTime => "date-time"
  | .time => "time"
  | .select => "select"
  | .radio => "radio"
  | .checklist => "checklist"
  | .autocomplete => "autocomplete"
  | .hidden => "hidden"
  | .html => "html"
  | .smallText => "small-text"
  | .files => "files"
  | .table => "table"
  | .submit => "submit"

/-- A hidden field has neither a title nor a required flag. -/
def isVisible (type : FieldType) : Bool := type ≠ .hidden

def ofName (name : String) : Except DecodeError FieldType :=
  match all.find? (fun type => type.name = name) with
  | some type => .ok type
  | none => .error (.unknownName name (all.map FieldType.name))

def ofJson : Decoder FieldType := Json.asName ofName

end FieldType

inductive ColumnType where
  | text
  | number
  | enum
  | date
  | time
deriving DecidableEq, Repr, Inhabited

namespace ColumnType

def all : List ColumnType := [.text, .number, .enum, .date, .time]

def name : ColumnType → String
  | .text => "text"
  | .number => "number"
  | .enum => "enum"
  | .date => "date"
  | .time => "time"

/-- Field types that a table cannot show have no column type. -/
def ofFieldType? : FieldType → Option ColumnType
  | .text => some .text
  | .number => some .number
  | .select => some .enum
  | .date => some .date
  | .time => some .time
  | _ => none

def ofName (name : String) : Except DecodeError ColumnType :=
  match all.find? (fun type => type.name = name) with
  | some type => .ok type
  | none => .error (.unknownName name (all.map ColumnType.name))

def ofJson : Decoder ColumnType := Json.asName ofName

end ColumnType
end SchemaForms
