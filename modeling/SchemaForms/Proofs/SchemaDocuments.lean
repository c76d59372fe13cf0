import SchemaForms.Proofs.OrderedMap
import SchemaForms.Proofs.Traversal
import SchemaForms.Schema.Decode
import SchemaForms.Schema.Basic
/-! Schemas are read back from the documents that are written for them. What is left out of a
document is absent when it is read, and each member that is written is read by the decoder of its
own kind. -/
namespace SchemaForms

namespace Json
variable {α : Type}

/-- What is written for a value is read as that value. -/
def ReadsBack (decode : Decoder α) (encode : α → Json) : Prop :=
  ∀ value, decode (encode value) = .ok value

theorem asList_array {decode : Decoder α} {encode : α → Json} (reads : ReadsBack decode encode) :
    ReadsBack (asList decode) fun items => .array (items.map encode) := by
  intro items
  have each : (items.map encode).mapM decode = .ok (items.map id) := by
    rw [List.mapM_map]
    exact mapM_ok_of_mem fun item _ => reads item
  rwa [List.map_id] at each

theorem asMap_ofMap {decode : Decoder α} {encode : α → Json} (reads : ReadsBack decode encode) :
    ReadsBack (asMap decode) fun map => ofMap (map.mapValues encode) := by
  intro map
  have each : decodeEntries decode (map.mapValues encode).entries = .ok (map.entries.map id) := by
    have written : (map.mapValues encode).entries =
        map.entries.map fun member => (member.1, encode member.2) := rfl
    rw [decodeEntries, written, List.mapM_map]
    exact mapM_ok_of_mem fun member _ => congrArg (Except.map _) (reads member.2)
  have read_eq : asMap decode (ofMap (map.mapValues encode)) =
      (decodeEntries decode (map.mapValues encode).entries).map .ofEntries := rfl
  rw [read_eq, each, List.map_id, Except.map, OrderedMap.ofEntries_entries]

end Json

namespace Property

/-- Properties are as deep as their items are nested. -/
theorem items_induction {motive : Property → Prop}
    (step : ∀ property : Property, (∀ items ∈ property.items, motive items) → motive property) :
    ∀ property, motive property
  | ⟨_, _, _, none, _, _⟩ => step _ nofun
  | ⟨_, _, _, some items, _, _⟩ =>
    step _ fun _ same => Option.some.inj same ▸ items_induction step items

/-- Reading one member, the one that nests included. -/
def set (property : Property) (member : String × Json) : Except DecodeError Property :=
  if member.1 = "items" then
    (member.2.asOptional ofJson).map fun items => { property with items }
  else property.setScalar member.1 member.2

/-- The members of a property are read one after another. -/
theorem ofMembers_eq_foldlM (property : Property) (members : Entries Json) :
    ofMembers property members = members.foldlM set property := by
  induction members generalizing property with
  | nil => rfl
  | cons member rest ih =>
    obtain ⟨name, value⟩ := member
    rw [List.foldlM_cons, set]
    unfold ofMembers
    by_cases nests : name = "items"
    · rw [if_pos nests, if_pos nests]
      cases value with
      | null => exact ih _
      | _ =>
        simp only [Json.asOptional, ih]
        generalize ofJson _ = outcome
        cases outcome <;> rfl
    · rw [if_neg nests, if_neg nests]
      simp only [ih]

/-- Every attribute is written by its name, and left out when it is absent. -/
theorem toJson_eq (property : Property) :
    property.toJson = .object
      (optionalMember "type" (fun type => .string type.name) property.type ++
        optionalMember "format" (fun format => .string format.name) property.format ++
        optionalMember "enum" .array property.literals ++
        optionalMember "items" toJson property.items ++
        optionalMember "$ref" .string property.reference ++
        optionalMember "description" .string property.description) := by
  obtain ⟨_, _, _, items, _, _⟩ := property
  cases items <;> rfl

/-- Reading a member that is written for an attribute is giving the property that attribute. -/
theorem foldlM_optionalMember {α : Type} {name : String} {encode : α → Json} {property : Property}
    (put : Option α → Property) (absent : put none = property) {value : Option α}
    (sets : ∀ present ∈ value, property.set (name, encode present) = .ok (put (some present))) :
    (optionalMember name encode value).foldlM set property = .ok (put value) := by
  cases value with
  | none => exact congrArg Except.ok absent.symm
  | some present =>
    rw [optionalMember, List.foldlM_cons, sets present rfl]
    rfl

/-- A list of literals is read as it stands. -/
theorem set_literals (property : Property) (literals : List Json) :
    property.set ("enum", .array literals) = .ok { property with literals := some literals } := by
  have as_they_are : Json.asList .ok (.array (literals.map id)) = .ok literals :=
    Json.asList_array (fun _ => rfl) literals
  rw [List.map_id] at as_they_are
  have read_eq : property.set ("enum", .array literals) =
      ((Json.asList .ok (.array literals)).map some).bind fun literals =>
        .ok { property with literals } := rfl
  rw [read_eq, as_they_are]
  rfl

theorem set_items {items : Property} (back : ofJson items.toJson = .ok items)
    (property : Property) :
    property.set ("items", items.toJson) = .ok { property with items := some items } := by
  have read_eq : property.set ("items", items.toJson) =
      ((ofJson items.toJson).map some).map fun items => { property with items } := by
    rw [set, if_pos rfl, items.toJson_eq]
    rfl
  rw [read_eq, back]
  rfl

/-- The members of a property give an empty one its attributes in turn. -/
theorem ofJson_toJson : Json.ReadsBack ofJson toJson := by
  intro property
  induction property using items_induction with
  | step property ih =>
    obtain ⟨type, format, literals, items, reference, description⟩ := property
    have typed : (optionalMember "type" (fun type : SchemaType => .string type.name) type).foldlM
        set {} = .ok { type } :=
      foldlM_optionalMember (fun type => { type }) rfl fun present _ => by cases present <;> rfl
    have formatted : (optionalMember "format" (fun format : SchemaFormat => .string format.name)
        format).foldlM set { type } = .ok { type, format } :=
      foldlM_optionalMember (fun format => { type, format }) rfl
        fun present _ => by cases present <;> rfl
    have listed : (optionalMember "enum" .array literals).foldlM set { type, format } =
        .ok { type, format, literals } :=
      foldlM_optionalMember (fun literals => { type, format, literals }) rfl
        fun present _ => set_literals _ present
    have nested : (optionalMember "items" toJson items).foldlM set { type, format, literals } =
        .ok { type, format, literals, items } :=
      foldlM_optionalMember (fun items => { type, format, literals, items }) rfl
        fun present given => set_items (ih present given) _
    have referenced : (optionalMember "$ref" .string reference).foldlM set
        { type, format, literals, items } = .ok { type, format, literals, items, reference } :=
      foldlM_optionalMember (fun reference => { type, format, literals, items, reference }) rfl
        fun _ _ => rfl
    have described : (optionalMember "description" .string description).foldlM set
        { type, format, literals, items, reference } =
          .ok { type, format, literals, items, reference, description } :=
      foldlM_optionalMember
        (fun description => { type, format, literals, items, reference, description }) rfl
        fun _ _ => rfl
    rw [toJson_eq, ofJson, ofMembers_eq_foldlM]
    simp only [List.append_assoc]
    rw [foldlM_append_of_ok typed, foldlM_append_of_ok formatted, foldlM_append_of_ok listed,
      foldlM_append_of_ok nested, foldlM_append_of_ok referenced]
    exact described

end Property

theorem Json.asList_strings : Json.ReadsBack (Json.asList Json.asString) Json.strings :=
  Json.asList_array fun _ => rfl

/-- An empty list of required properties is left out, as it is when none is given. -/
theorem Definition.ofJson_toJson : Json.ReadsBack Definition.ofJson Definition.toJson := by
  rintro ⟨properties, required⟩
  have given : [("properties", Properties.toJson properties)].foldlM Definition.set {} =
      .ok { properties } := by
    rw [List.foldlM_cons, Definition.set,
      show Json.asMap Property.ofJson (Properties.toJson properties) = .ok properties from
        Json.asMap_ofMap Property.ofJson_toJson properties]
    rfl
  have demanded : (if required.isEmpty then [] else
      [("required", Json.strings required)]).foldlM Definition.set { properties } =
        .ok { properties, required } := by
    cases required with
    | nil => rfl
    | cons first rest =>
      rw [List.isEmpty_cons, if_neg Bool.false_ne_true, List.foldlM_cons, Definition.set,
        Json.asList_strings]
      rfl
  exact (foldlM_append_of_ok given _).trans demanded

theorem Schema.ofJson_toJson : Json.ReadsBack Schema.ofJson Schema.toJson := by
  rintro ⟨definitions⟩
  have given : [("definitions", Json.ofMap (definitions.mapValues Definition.toJson))].foldlM
      Schema.set {} = .ok { definitions } := by
    rw [List.foldlM_cons, Schema.set, Json.asMap_ofMap Definition.ofJson_toJson]
    rfl
  exact given

/-- A document without what is passed over when it is read: null members, unknown attributes,
names without meaning, and lists in the place of records. -/
def Schema.normalize (document : Json) : Except DecodeError Json :=
  (Schema.ofJson document).map Schema.toJson

/-- Every schema is read back, with its order, from the document that is written for it. So what
is written for the schema of a document is left as it is when it is read and written again. -/
theorem Schema.reads_back :
    Json.ReadsBack Schema.ofJson Schema.toJson ∧
      ∀ document canonical, Schema.normalize document = .ok canonical →
        Schema.normalize canonical = .ok canonical := by
  refine ⟨Schema.ofJson_toJson, fun document canonical normalized => ?_⟩
  obtain ⟨schema, -, rfl⟩ := exists_of_map_ok normalized
  exact congrArg (Except.map Schema.toJson) (Schema.ofJson_toJson schema)

/-- A description that names things without meaning for forms, gives a null member and a record by
position. -/
def parcelDocument : Json :=
  .object [
    ("swagger", .string "2.0"),
    ("definitions", .object [
      ("Parcel", .object [
        ("required", .array [.string "sizes"]),
        ("properties", .object [
          ("sizes", .object [
            ("items", .object [
              ("items", .object [("type", .string "uuid"), ("format", .string "zip-code")]),
              ("type", .string "array")]),
            ("description", .null)]),
          ("state", .array [.null, .null, .array [], .null, .string "#/definitions/State", .null])
        ])]),
      ("State", .object [("required", .array []), ("properties", .object [])])])]

/-- The same description as it is written. -/
def parcelCanonical : Json :=
  .object [
    ("definitions", .object [
      ("Parcel", .object [
        ("properties", .object [
          ("sizes", .object [
            ("items", .object [
              ("type", .string "array"),
              ("items", .object [("type", .string "unknown"), ("format", .string "other")])])]),
          ("state", .object [("enum", .array []), ("$ref", .string "#/definitions/State")])]),
        ("required", .array [.string "sizes"])]),
      ("State", .object [("properties", .object [])])])]

theorem Schema.parcelDocument_reads_back :
    Schema.normalize parcelDocument = .ok parcelCanonical ∧
      Schema.normalize parcelCanonical = .ok parcelCanonical := by
  have normalized : Schema.normalize parcelDocument = .ok parcelCanonical := by decide +kernel
  exact ⟨normalized, Schema.reads_back.2 _ _ normalized⟩

end SchemaForms
