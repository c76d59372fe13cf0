import SchemaForms.Proofs.FormDocuments
import SchemaForms.Proofs.Merge
/-! How the documents of fields and columns are laid out. The attributes that are present stand in
their fixed order, and free attributes are laid over them: one that is there already takes its value
where it stands, and the others follow behind. -/
namespace SchemaForms

/-- Attributes in document order; an absent one has no value. -/
abbrev Attributes := Entries (Option Json)

namespace Attributes

/-- The members that the present attributes make. -/
def present (attributes : Attributes) : Entries Json := Entries.filterMapValues id attributes

theorem present_nil : present [] = [] := rfl

theorem present_some (name : String) (value : Json) (rest : Attributes) :
    present ((name, some value) :: rest) = (name, value) :: present rest := rfl

theorem present_map {α : Type} (name : String) (encode : α → Json) (value : Option α)
    (rest : Attributes) :
    present ((name, value.map encode) :: rest) =
      optionalMember name encode value ++ present rest := by
  cases value <;> rfl

end Attributes

/-- The attributes that a field gives itself. Title and required flag are those of visible fields,
the text is that of the button; options belong to a choice, and columns and rows to a table. -/
def Field.ownAttributes (field : Field) : Attributes :=
  [("name", some (.string field.name)),
   ("type", some (.string field.type.name)),
   ("title", field.title.map fun key => .string key.reference),
   ("required", field.required.map .bool),
   ("text", field.text.map fun key => .string key.reference),
   ("options", field.options.map fun options => .array (options.map Choice.toOptionJson)),
   ("columns", field.columns.map fun columns => .array (columns.map Column.toJson)),
   ("addRows", if field.addRows then some (.bool true) else none)]

def Column.ownAttributes (column : Column) : Attributes :=
  [("title", some (.string column.title.reference)),
   ("name", some (.string column.name)),
   ("type", column.type.map fun type => .string type.name),
   ("calculate-sum", column.calculateSum.map .bool),
   ("min", column.min.map .number),
   ("max", column.max.map .number),
   ("step", column.step.map .number),
   ("values", column.values.map fun values => .array (values.map Choice.toValueJson))]

/-- The document has the present ones of its own attributes in their order, and then the free ones
of other names in theirs. Free attributes take precedence; an absent one that is not free does not
appear. -/
structure LaidOut (own : Attributes) (free : OrderedMap Json) (document : Json) : Prop where
  isObject : document.isObject
  nodup : document.keys.Nodup
  keys : document.keys =
    Entries.keys own.present ++ free.keys.filter (· ∉ Entries.keys own.present)
  laid_over : ∀ name value, free.get? name = some value → document.get? name = some value
  generated : ∀ name value, name ∉ free.keys → (name, some value) ∈ own →
    document.get? name = some value
  absent : ∀ name, (name, none) ∈ own → (name ∈ document.keys ↔ name ∈ free.keys)

namespace Attributes
variable {own : Attributes}

theorem nodup_keys_present (nodup : (Entries.keys own).Nodup) : (Entries.keys own.present).Nodup :=
  nodup.sublist (Entries.keys_filterMapValues_sublist id own)

theorem get?_present (nodup : (Entries.keys own).Nodup) {name : String} {value? : Option Json}
    (member : (name, value?) ∈ own) : Entries.get? own.present name = value? := by
  rw [present, Entries.get?_filterMapValues nodup, Entries.get?_of_mem nodup member]
  rfl

theorem laidOut_insertAll (nodup : (Entries.keys own).Nodup) (free : OrderedMap Json) :
    LaidOut own free (.object (Entries.insertAll own.present free.entries)) := by
  have keys_eq : (Json.object (Entries.insertAll own.present free.entries)).keys =
      Entries.keys own.present ++ free.keys.filter (· ∉ Entries.keys own.present) :=
    Entries.keys_insertAll_of_nodup own.present free.nodup
  refine ⟨rfl, Entries.nodup_keys_insertAll (nodup_keys_present nodup) _, keys_eq, ?_, ?_, ?_⟩
  · intro name value given
    rw [Json.get?_object_insertAll, given, Option.some_or]
  · intro name value own_name member
    rw [Json.get?_object_insertAll, OrderedMap.get?_eq_none_iff.mpr own_name, Option.none_or,
      get?_present nodup member]
  · intro name member
    have missing : name ∉ Entries.keys own.present :=
      Entries.get?_eq_none_iff.mp (get?_present nodup member)
    rw [keys_eq, List.mem_append, List.mem_filter]
    simp [missing]

end Attributes

theorem Field.attributes_eq_present (field : Field) :
    field.attributes = field.ownAttributes.present := by
  have rows : Attributes.present [("addRows", if field.addRows then some (.bool true) else none)] =
      if field.addRows then [("addRows", .bool true)] else [] := by
    cases field.addRows <;> rfl
  simp only [ownAttributes, Attributes.present_some, Attributes.present_map, rows]
  simp only [attributes, List.append_assoc, List.cons_append, List.nil_append]

theorem Column.attributes_eq_present (column : Column) :
    column.attributes = column.ownAttributes.present := by
  simp only [ownAttributes, Attributes.present_some, Attributes.present_map,
    Attributes.present_nil, List.append_nil]
  simp only [attributes, List.append_assoc, List.cons_append, List.nil_append]

/-- Every field and every column, those of a table included, is written with its present attributes
in their order and the free attributes of its rule laid over them. -/
theorem attributes_laid_out :
    (∀ field : Field, LaidOut field.ownAttributes field.extra field.toJson) ∧
      ∀ column : Column, LaidOut column.ownAttributes column.extra column.toJson := by
  refine ⟨fun field => ?_, fun column => ?_⟩
  · rw [Field.toJson, Field.attributes_eq_present]
    exact Attributes.laidOut_insertAll (by simp [Field.ownAttributes]) _
  · rw [Column.toJson, Column.attributes_eq_present]
    exact Attributes.laidOut_insertAll (by simp [Column.ownAttributes]) _

/-- A memo that is always required, with a number of rows. -/
example :
    let body : Field :=
      { name := "body", type := .memo, title := some ⟨"forms.ticketCreate.body"⟩
        required := some false
        extra := .ofEntries [("rows", .number (.int 5)), ("required", .bool true)] }
    body.toJson = .object
      [("name", .string "body"), ("type", .string "memo"),
       ("title", .string "[[forms.ticketCreate.body]]"), ("required", .bool true),
       ("rows", .number (.int 5))] := by
  decide

end SchemaForms
