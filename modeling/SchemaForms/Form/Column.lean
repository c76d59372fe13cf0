import SchemaForms.Flatten
/-! Columns of a table: one for each referenced property that a column can show, then the extra
columns of the rule, sorted by their order. -/
namespace SchemaForms

def defaultOrder : Binary64 := .ofInt 100

structure Column where
  title : LocaleKey
  name : String
  type : Option ColumnType := none
  calculateSum : Option Bool := none
  min : Option Number := none
  max : Option Number := none
  step : Option Number := none
  values : Option (List Choice) := none
  /-- Attributes laid over the others. -/
  extra : OrderedMap Json := {}
  /-- The sort key, which no document shows. -/
  order : Binary64 := defaultOrder
deriving DecidableEq

def Choice.toValueJson (choice : Choice) : Json :=
  .object [("text", .string choice.label.reference), ("value", choice.literal)]

namespace Column

/-- The attributes that do not come from `extra`, in document order. -/
def attributes (column : Column) : Entries Json :=
  [("title", .string column.title.reference), ("name", .string column.name)] ++
    optionalMember "type" (fun type => .string type.name) column.type ++
    optionalMember "calculate-sum" .bool column.calculateSum ++
    optionalMember "min" .number column.min ++
    optionalMember "max" .number column.max ++
    optionalMember "step" .number column.step ++
    optionalMember "values" (fun values => .array (values.map Choice.toValueJson)) column.values

def toJson (column : Column) : Json :=
  .object (Entries.insertAll column.attributes column.extra.entries)

/-- The numeric `order` among free attributes. -/
def literalOrder? (attributes : OrderedMap Json) : Option Binary64 :=
  ((attributes.get? "order").bind Json.number?).map Number.toBinary64

/-- The column of a referenced property under its rule, or none when it is skipped or has no
column type. -/
def ofProperty? (tableKey : LocaleKey) (rules : OrderedMap ColumnRule)
    (entry : String × Property) : Option (Labelled Column) :=
  let (name, property) := entry
  let rule := (rules.get? name).getD {}
  match property.columnType? with
  | none => none
  | some inferred =>
    if rule.skip then none
    else
      let key := tableKey.child name
      let literals := property.literals.getD []
      let isChoice := inferred = .enum
      some
        { value :=
            { title := key
              name
              type := some (rule.type.getD inferred)
              calculateSum := rule.calculateSum
              min := rule.min
              max := rule.max
              step := rule.step
              values := if isChoice then some (literals.map (choice key)) else none
              extra := rule.extra.erase "order"
              order := ((literalOrder? rule.extra) <|> rule.order).getD defaultOrder }
          labels := ⟨key, property.description.getD name⟩ ::
            if isChoice then literals.map (literalLabel key) else [] }

/-- A column given by its attributes. Its title is registered unless it brings its own. -/
def ofAttributes (tableKey : LocaleKey) (entry : String × OrderedMap Json) : Labelled Column :=
  let (name, attributes) := entry
  let key := tableKey.child name
  { value :=
      { title := key
        name
        extra := attributes.erase "order"
        order := (literalOrder? attributes).getD defaultOrder }
    labels := if attributes.contains "title" then [] else [⟨key, name⟩] }

/-- The columns of a table before sorting. -/
def declared (tableKey : LocaleKey) (rule : FieldRule) (referenced : Properties) :
    List (Labelled Column) :=
  referenced.entries.filterMap (ofProperty? tableKey rule.columns) ++
    rule.extraColumns.entries.map (ofAttributes tableKey)

/-- Columns of equal order stay in the order of their declaration. -/
def sort (columns : List Column) : List Column :=
  columns.mergeSort (fun left right => left.order.rank ≤ right.order.rank)

/-- Labels are registered in the order of declaration, before the columns are sorted. -/
def build (tableKey : LocaleKey) (rule : FieldRule) (referenced : Properties) :
    Labelled (List Column) :=
  let columns := declared tableKey rule referenced
  { value := sort (columns.map Labelled.value), labels := columns.flatMap Labelled.labels }

end Column
end SchemaForms
