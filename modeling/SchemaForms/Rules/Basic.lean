import SchemaForms.FieldType
/-! Overrides for the fields and columns of one form, the flags of the prepare pass, and how both
are read from documents. An entry that cannot be read is dropped alone; only a type override that
names no field type rejects the rules around it. -/
namespace SchemaForms

/-- Overrides for the column made from a referenced property. -/
structure ColumnRule where
  skip : Bool := false
  type : Option ColumnType := none
  calculateSum : Option Bool := none
  order : Option Binary64 := none
  min : Option Number := none
  max : Option Number := none
  step : Option Number := none
  extra : OrderedMap Json := {}
deriving DecidableEq, Inhabited

/-- Overrides for the field made from a property. -/
structure FieldRule where
  skip : Bool := false
  flatten : Bool := false
  prefixed : Bool := false
  type : Option FieldType := none
  extra : OrderedMap Json := {}
  columns : OrderedMap ColumnRule := {}
  extraColumns : OrderedMap (OrderedMap Json) := {}
deriving DecidableEq, Inhabited

/-- The rules of one definition and operation, by property name. -/
structure RuleSet where
  fields : OrderedMap FieldRule := {}
deriving DecidableEq, Inhabited

def RuleSet.field? (rules : RuleSet) (property : String) : Option FieldRule :=
  rules.fields.get? property

structure PrepareFieldRule where
  flatten : Bool := false
deriving DecidableEq, Inhabited

structure PrepareRules where
  fields : OrderedMap PrepareFieldRule := {}
deriving DecidableEq, Inhabited

def PrepareRules.flattens (rules : PrepareRules) (property : String) : Bool :=
  (rules.fields.get? property).any PrepareFieldRule.flatten

/-- The entries of an object that can be read on their own. Other values have no entries. -/
def readableEntries {α : Type} (decode : Decoder α) (value : Json) : OrderedMap α :=
  .ofEntries (Entries.filterMapValues (fun entry => (decode entry).toOption)
    (value.members?.getD []))

namespace ColumnRule

def attributeNames : List String :=
  ["skip", "type", "calculate-sum", "order", "min", "max", "step", "extra"]

def set (rule : ColumnRule) : String × Json → Except DecodeError ColumnRule
  | ("skip", value) => do return { rule with skip := ← value.asBool }
  | ("type", value) => do return { rule with type := ← value.asOptional ColumnType.ofJson }
  | ("calculate-sum", value) => do
    return { rule with calculateSum := ← value.asOptional Json.asBool }
  | ("order", value) => do
    return { rule with order := (← value.asOptional Json.asNumber).map Number.toBinary64 }
  | ("min", value) => do return { rule with min := ← value.asOptional Json.asNumber }
  | ("max", value) => do return { rule with max := ← value.asOptional Json.asNumber }
  | ("step", value) => do return { rule with step := ← value.asOptional Json.asNumber }
  | ("extra", value) => do return { rule with extra := ← value.asMap .ok }
  | _ => .ok rule

def ofJson : Decoder ColumnRule := Json.asRecord "ColumnRule" attributeNames {} set

end ColumnRule

namespace FieldRule

def attributeNames : List String :=
  ["skip", "flatten", "prefixFlatProperties", "type", "extra", "columns", "extra-columns"]

def set (rule : FieldRule) : String × Json → Except DecodeError FieldRule
  | ("skip", value) => do return { rule with skip := ← value.asBool }
  | ("flatten", value) => do return { rule with flatten := ← value.asBool }
  | ("prefixFlatProperties", value) => do return { rule with prefixed := ← value.asBool }
  | ("type", value) => do return { rule with type := ← value.asOptional FieldType.ofJson }
  | ("extra", value) => do return { rule with extra := ← value.asMap .ok }
  | ("columns", value) => .ok { rule with columns := readableEntries ColumnRule.ofJson value }
  | ("extra-columns", value) => do
    return { rule with extraColumns := ← value.asMap (Json.asMap .ok) }
  | _ => .ok rule

def ofJson : Decoder FieldRule := Json.asRecord "FieldRule" attributeNames {} set

end FieldRule

namespace RuleSet

/-- Why an entry rejects the whole set: it has a type that is no field type. -/
def typeFault? (entry : String × Json) : Option (String × DecodeError) :=
  match (entry.2.get? "type").map FieldType.ofJson with
  | some (.error cause) => some (entry.1, cause)
  | _ => none

/-- The rules in a merged document, or the first field with a wrong type. A document that is no
object holds no rules. -/
def ofMerged (merged : Json) : Except (String × DecodeError) RuleSet :=
  match merged.get? "fields" with
  | none => .ok {}
  | some fields =>
    match (fields.members?.getD []).findSome? typeFault? with
    | some fault => .error fault
    | none => .ok { fields := readableEntries FieldRule.ofJson fields }

end RuleSet

namespace PrepareFieldRule

def set (rule : PrepareFieldRule) : String × Json → Except DecodeError PrepareFieldRule
  | ("flatten", value) => do return { rule with flatten := ← value.asBool }
  | _ => .ok rule

def ofJson : Decoder PrepareFieldRule := Json.asRecord "PrepareFieldRule" ["flatten"] {} set

end PrepareFieldRule

namespace PrepareRules

def set (rules : PrepareRules) : String × Json → Except DecodeError PrepareRules
  | ("fields", value) => do
    return { rules with fields := ← value.asMap PrepareFieldRule.ofJson }
  | _ => .ok rules

def ofJson : Decoder PrepareRules := Json.asRecord "PrepareRules" ["fields"] {} set

end PrepareRules

end SchemaForms
