import SchemaForms.Form.Document
import SchemaForms.Proofs.OrderedMap
/-! Members of the documents of fields and columns. A free attribute is found before the generated
member of its name. -/
namespace SchemaForms

theorem Entries.get?_optionalMember {α : Type} (name : String) (encode : α → Json)
    (value : Option α) (key : String) :
    Entries.get? (optionalMember name encode value) key =
      if name = key then value.map encode else none := by
  cases value with
  | none => simp [optionalMember]
  | some value => simp [optionalMember, Entries.get?_cons]

/-- Members laid over others are found first. -/
theorem Json.get?_object_insertAll (members : Entries Json) (extra : OrderedMap Json)
    (key : String) :
    (Json.object (Entries.insertAll members extra.entries)).get? key =
      (extra.get? key).or (Entries.get? members key) := by
  have found : (Json.object (Entries.insertAll members extra.entries)).get? key =
      Entries.get? (Entries.insertAll members extra.entries) key := rfl
  rw [found, Entries.get?_insertAll, Entries.get?_reverse extra.nodup]
  rfl

namespace Column

theorem get?_attributes (column : Column) (key : String) :
    Entries.get? column.attributes key =
      match key with
      | "title" => some (.string column.title.reference)
      | "name" => some (.string column.name)
      | "type" => column.type.map fun type => .string type.name
      | "calculate-sum" => column.calculateSum.map .bool
      | "min" => column.min.map .number
      | "max" => column.max.map .number
      | "step" => column.step.map .number
      | "values" => column.values.map fun values => .array (values.map Choice.toValueJson)
      | _ => none := by
  split <;>
    simp_all [attributes, Entries.get?_append, Entries.get?_cons, Entries.get?_optionalMember,
      @eq_comm String]

theorem get?_toJson (column : Column) {key : String} (own : ¬ column.extra.contains key) :
    column.toJson.get? key = Entries.get? column.attributes key := by
  rw [toJson, Json.get?_object_insertAll, Option.not_isSome_iff_eq_none.mp own, Option.none_or]

end Column

namespace Field

theorem get?_attributes (field : Field) (key : String) :
    Entries.get? field.attributes key =
      match key with
      | "name" => some (.string field.name)
      | "type" => some (.string field.type.name)
      | "title" => field.title.map fun title => .string title.reference
      | "required" => field.required.map .bool
      | "text" => field.text.map fun text => .string text.reference
      | "options" => field.options.map fun options => .array (options.map Choice.toOptionJson)
      | "columns" => field.columns.map fun columns => .array (columns.map Column.toJson)
      | "addRows" => if field.addRows then some (.bool true) else none
      | _ => none := by
  split <;> cases addRows_eq : field.addRows <;>
    simp_all [attributes, Entries.get?_append, Entries.get?_cons, Entries.get?_optionalMember,
      @eq_comm String]

theorem get?_toJson (field : Field) {key : String} (own : ¬ field.extra.contains key) :
    field.toJson.get? key = Entries.get? field.attributes key := by
  rw [toJson, Json.get?_object_insertAll, Option.not_isSome_iff_eq_none.mp own, Option.none_or]

end Field
end SchemaForms
