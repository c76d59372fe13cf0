import Mathlib.Logic.Relation
import SchemaForms.Proofs.SchemaDocuments
/-! Complete interface descriptions are read as they are. Whatever members of other names stand in
the records of a document, at any depth, the schema that is read or the reason why none can be read
is the same. In the mappings from names to records every member counts. -/
namespace SchemaForms

namespace Json
variable {α : Type}

/-- A list gives no more than the attributes of a record. -/
def checkSurplus (attributes given : Nat) (record : α) : Except DecodeError α :=
  if attributes < given then .error (.invalidLength given "fewer elements in array")
  else .ok record

theorem asRecord_array (name : String) (attributes : List String) (empty : α)
    (step : α → String × Json → Except DecodeError α) (items : List Json) :
    asRecord name attributes empty step (.array items) =
      (attributes.zip items).foldlM step empty >>=
        checkSurplus attributes.length items.length := by
  refine congrArg (_ >>= ·) (funext fun record => ?_)
  unfold checkSurplus
  split <;> rfl

end Json

namespace Property

/-- A property that is given by position has all its attributes and nothing else. -/
def checkLength (expected given length : Nat) (property : Property) : Except DecodeError Property :=
  if given < expected then .error (.invalidLength length "struct Property with 6 elements")
  else if expected < given then .error (.invalidLength length "fewer elements in array")
  else .ok property

theorem checkLength_succ (expected given length : Nat) :
    checkLength (expected + 1) (given + 1) length = checkLength expected given length := by
  funext property
  simp only [checkLength, Nat.add_lt_add_iff_right]

/-- The elements of a list are read like members of the attributes' names. -/
theorem ofElements_eq_foldlM (names : List String) (length : Nat) (property : Property)
    (items : List Json) :
    ofElements names length property items =
      (names.zip items).foldlM set property >>= checkLength names.length items.length length := by
  induction items generalizing names property with
  | nil =>
    unfold ofElements
    cases names with
    | nil => rfl
    | cons name names => rfl
  | cons value rest ih =>
    unfold ofElements
    cases names with
    | nil => rfl
    | cons name names =>
      rw [List.zip_cons_cons, List.foldlM_cons, List.length_cons, List.length_cons,
        checkLength_succ, set]
      by_cases nests : name = "items"
      · simp only [if_pos nests]
        cases value with
        | null => exact ih names _
        | _ =>
          simp only [Json.asOptional, ih]
          generalize ofJson _ = outcome
          cases outcome <;> rfl
      · simp only [if_neg nests, ih, bind_assoc]

theorem set_unknown {name : String} (new : name ∉ attributeNames) (value : Json)
    (property : Property) : property.set (name, value) = .ok property := by
  have flat : name ≠ "items" := by
    rintro rfl
    exact new (by decide)
  rw [set, if_neg flat]
  unfold setScalar
  split <;> simp_all [attributeNames]

theorem set_items_congr {value value' : Json}
    (same : value'.asOptional ofJson = value.asOptional ofJson) (property : Property) :
    property.set ("items", value') = property.set ("items", value) := by
  rw [set, set, if_pos rfl, if_pos rfl, same]

end Property

namespace Definition

theorem set_unknown {name : String} (new : name ∉ ["properties", "required"])
    (value : Json) (definition : Definition) : definition.set (name, value) = .ok definition := by
  unfold set
  split <;> simp_all

theorem set_properties_congr {value value' : Json}
    (same : value'.asMap Property.ofJson = value.asMap Property.ofJson) (definition : Definition) :
    definition.set ("properties", value') = definition.set ("properties", value) := by
  simp only [set, same]

end Definition

namespace Schema

theorem set_unknown {name : String} (new : name ∉ ["definitions"]) (value : Json)
    (schema : Schema) : schema.set (name, value) = .ok schema := by
  unfold set
  split <;> simp_all

theorem set_definitions_congr {value value' : Json}
    (same : value'.asMap Definition.ofJson = value.asMap Definition.ofJson) (schema : Schema) :
    schema.set ("definitions", value') = schema.set ("definitions", value) := by
  simp only [set, same]

end Schema

/-- What stands at a place of a schema's document: a record, a mapping from names to records, or a
value that holds no records. -/
inductive Place where
  | schema
  | definitions
  | definition
  | properties
  | property
  | value
deriving DecidableEq

namespace Place

/-- The attributes of a record in their order, each with the place of its value. -/
def attributes : Place → Entries Place
  | schema => [("definitions", definitions)]
  | definition => [("properties", properties), ("required", value)]
  | property =>
    [("type", value), ("format", value), ("enum", value), ("items", property), ("$ref", value),
     ("description", value)]
  | definitions | properties | value => []

def isRecord (place : Place) : Bool := !place.attributes.isEmpty

/-- The place of what a mapping holds under its names. -/
def named? : Place → Option Place
  | definitions => some definition
  | properties => some property
  | schema | definition | property | value => none

/-- What is read at a place. -/
def Content : Place → Type
  | schema => Schema
  | definitions => OrderedMap Definition
  | definition => Definition
  | properties => Properties
  | property => Property
  | value => Json

def decode : (place : Place) → Decoder place.Content
  | schema => Schema.ofJson
  | definitions => Json.asMap Definition.ofJson
  | definition => Definition.ofJson
  | properties => Json.asMap Property.ofJson
  | property => Property.ofJson
  | value => .ok

end Place

/-- A document with one member of an unknown name more than another, in a record that stands
somewhere in it. -/
inductive Inserts : Place → Json → Json → Prop where
  | unknown {place : Place} (before after : Entries Json) (name : String) (value : Json)
      (record : place.isRecord) (new : name ∉ Entries.keys place.attributes) :
      Inserts place (.object (before ++ after)) (.object (before ++ (name, value) :: after))
  | member {place inner : Place} (before after : Entries Json) (name : String)
      {value value' : Json} (known : (name, inner) ∈ place.attributes)
      (inside : Inserts inner value value') :
      Inserts place (.object (before ++ (name, value) :: after))
        (.object (before ++ (name, value') :: after))
  /-- A record that gives its attributes by position. -/
  | element {place inner : Place} (before after : List Json) {earlier later : Entries Place}
      {name : String} {value value' : Json}
      (known : place.attributes = earlier ++ (name, inner) :: later)
      (aligned : earlier.length = before.length) (inside : Inserts inner value value') :
      Inserts place (.array (before ++ value :: after)) (.array (before ++ value' :: after))
  | entry {place inner : Place} (before after : Entries Json) (name : String)
      {value value' : Json} (named : place.named? = some inner)
      (inside : Inserts inner value value') :
      Inserts place (.object (before ++ (name, value) :: after))
        (.object (before ++ (name, value') :: after))

theorem Inserts.ne_null {place : Place} {document full : Json}
    (inserts : Inserts place document full) : document ≠ .null ∧ full ≠ .null := by
  cases inserts <;> exact ⟨Json.noConfusion, Json.noConfusion⟩

namespace Place

/-- How a record is read: attribute by attribute, from its members or by position. Members of other
names are passed over, and of an attribute only what is read at its place counts. -/
structure Reading (place : Place) where
  empty : place.Content
  set : place.Content → String × Json → Except DecodeError place.Content
  finish : Nat → place.Content → Except DecodeError place.Content
  decode_object : ∀ members, place.decode (.object members) = members.foldlM set empty
  decode_array : ∀ items, place.decode (.array items) =
    ((Entries.keys place.attributes).zip items).foldlM set empty >>= finish items.length
  set_unknown : ∀ name value, name ∉ Entries.keys place.attributes →
    ∀ record, set record (name, value) = .ok record
  set_attribute : ∀ name inner value value', (name, inner) ∈ place.attributes →
    Inserts inner value value' → inner.decode value' = inner.decode value →
    ∀ record, set record (name, value') = set record (name, value)

theorem asOptional_of_inserts {α : Type} {place : Place} {document full : Json}
    (inserts : Inserts place document full) {decode : Decoder α}
    (same : decode full = decode document) :
    full.asOptional decode = document.asOptional decode := by
  have present {value : Json} (given : value ≠ .null) :
      value.asOptional decode = (decode value).map some := by
    cases value with
    | null => exact absurd rfl given
    | _ => rfl
  rw [present inserts.ne_null.1, present inserts.ne_null.2, same]

def Reading.schema : Reading schema where
  empty := {}
  set := Schema.set
  finish := Json.checkSurplus 1
  decode_object := fun _ => rfl
  decode_array := Json.asRecord_array "ApiSchema" _ _ _
  set_unknown := fun _ value new => Schema.set_unknown new value
  set_attribute := fun name inner value value' known inside same record => by
    obtain ⟨rfl, rfl⟩ := Prod.mk.inj (List.mem_singleton.mp known)
    exact Schema.set_definitions_congr same record

def Reading.definition : Reading definition where
  empty := {}
  set := Definition.set
  finish := Json.checkSurplus 2
  decode_object := fun _ => rfl
  decode_array := Json.asRecord_array "Definition" _ _ _
  set_unknown := fun _ value new => Definition.set_unknown new value
  set_attribute := fun name inner value value' known inside same record => by
    rcases List.mem_cons.mp known with here | later
    · obtain ⟨rfl, rfl⟩ := Prod.mk.inj here
      exact Definition.set_properties_congr same record
    · obtain ⟨rfl, rfl⟩ := Prod.mk.inj (List.mem_singleton.mp later)
      obtain rfl : value' = value := Except.ok.inj same
      rfl

def Reading.property : Reading property where
  empty := {}
  set := Property.set
  finish := fun given => Property.checkLength 6 given given
  decode_object := fun members => Property.ofMembers_eq_foldlM {} members
  decode_array := fun items => Property.ofElements_eq_foldlM _ items.length {} items
  set_unknown := fun _ value new => Property.set_unknown new value
  set_attribute := fun name inner value value' known inside same record => by
    cases inner with
    | property =>
      obtain rfl : name = "items" := by simpa [attributes] using known
      exact Property.set_items_congr (asOptional_of_inserts inside same) record
    | value =>
      -- A value is read as it is, so that nothing can have been put into it.
      obtain rfl : value' = value := Except.ok.inj same
      rfl
    | _ => simp [attributes] at known

theorem nonempty_reading {place : Place} (record : place.isRecord) : Nonempty (Reading place) := by
  cases place with
  | schema => exact ⟨.schema⟩
  | definition => exact ⟨.definition⟩
  | property => exact ⟨.property⟩
  | _ => cases record

variable {place inner : Place}

theorem isRecord_of_mem {name : String} (known : (name, inner) ∈ place.attributes) :
    place.isRecord := by
  cases attributes_eq : place.attributes with
  | nil => rw [attributes_eq] at known; cases known
  | cons => rw [isRecord, attributes_eq]; rfl

/-- Of a member of a mapping only the name and what is read under it count. -/
theorem decode_entry {name : String} {value value' : Json} (named : place.named? = some inner)
    (same : inner.decode value' = inner.decode value) (before after : Entries Json) :
    place.decode (.object (before ++ (name, value') :: after)) =
      place.decode (.object (before ++ (name, value) :: after)) := by
  have members_congr {α : Type} {decode : Decoder α} (same : decode value' = decode value) :
      Json.asMap decode (.object (before ++ (name, value') :: after)) =
        Json.asMap decode (.object (before ++ (name, value) :: after)) := by
    simp only [Json.asMap, Json.decodeEntries, List.mapM_append, List.mapM_cons, same]
  cases place with
  | definitions => obtain rfl := Option.some.inj named; exact members_congr same
  | properties => obtain rfl := Option.some.inj named; exact members_congr same
  | _ => cases named

/-- One more member of an unknown name does not change what is read. -/
theorem decode_of_inserts {document full : Json} (inserts : Inserts place document full) :
    place.decode full = place.decode document := by
  induction inserts with
  | unknown before after name value record new =>
    obtain ⟨reading⟩ := nonempty_reading record
    rw [reading.decode_object, reading.decode_object]
    exact foldlM_skip (reading.set_unknown name value new) before after _
  | @member place inner before after name value value' known inside ih =>
    obtain ⟨reading⟩ := nonempty_reading (isRecord_of_mem known)
    rw [reading.decode_object, reading.decode_object]
    exact foldlM_congr_at (reading.set_attribute name inner value value' known inside ih) before
      after _
  | @element place inner before after earlier later name value value' known aligned inside ih =>
    have member : (name, inner) ∈ place.attributes := by
      rw [known]
      exact List.mem_append_right _ List.mem_cons_self
    obtain ⟨reading⟩ := nonempty_reading (isRecord_of_mem member)
    -- The changed element is read under the one name that stands at its position.
    have zip_eq (item : Json) : (Entries.keys place.attributes).zip (before ++ item :: after) =
        (Entries.keys earlier).zip before ++ (name, item) :: (Entries.keys later).zip after := by
      rw [known, Entries.keys, List.map_append, List.zip_append (by simpa using aligned)]
      rfl
    rw [reading.decode_array, reading.decode_array, zip_eq, zip_eq, List.length_append,
      List.length_append, List.length_cons, List.length_cons]
    refine congrArg (· >>= _) ?_
    exact foldlM_congr_at (reading.set_attribute name inner value value' member inside ih) _ _ _
  | entry before after name named inside ih => exact decode_entry named ih before after

end Place

/-- A schema's document is read like any document that holds more members of unknown names in its
records, however many and whatever stands under them: the same schema comes of both, or the same
error. -/
theorem Schema.ofJson_of_insertions {document full : Json}
    (insertions : Relation.ReflTransGen (Inserts .schema) document full) :
    Schema.ofJson full = Schema.ofJson document := by
  induction insertions with
  | refl => rfl
  | tail _ inserts ih => exact (Place.decode_of_inserts inserts).trans ih

/-- Pets have tags. Further members may stand in the records on the way to the format of a tag. -/
def petDocument (root definition property items : Entries Json) (format : Json) : Json :=
  .object (root ++ [("definitions", .object
    [("Pet", .object (definition ++ [("properties", .object
      [("tags", .object (property ++ [("type", .string "array"), ("items", .object (items ++
        [("type", .string "string"), ("format", format)]))]))])]))])])

/-- Each record has a member whose name means something in another one. -/
def completePetDocument (format : Json) : Json :=
  petDocument [("items", .null)] [("type", .string "object")] [("properties", .array [])]
    [("definitions", .object [("Tag", .null)])] format

theorem petDocument_insertions (format : Json) :
    Relation.ReflTransGen (Inserts .schema) (petDocument [] [] [] [] format)
      (completePetDocument format) := by
  have at_pet {value value' : Json} (inside : Inserts .definition value value') :
      Inserts .schema (.object [("definitions", .object [("Pet", value)])])
        (.object [("definitions", .object [("Pet", value')])]) :=
    .member [] [] "definitions" List.mem_cons_self (.entry [] [] "Pet" rfl inside)
  have at_tags {value value' : Json} (inside : Inserts .property value value') :
      Inserts .definition (.object [("properties", .object [("tags", value)])])
        (.object [("properties", .object [("tags", value')])]) :=
    .member [] [] "properties" List.mem_cons_self (.entry [] [] "tags" rfl inside)
  have at_items {value value' : Json} (inside : Inserts .property value value') :
      Inserts .property (.object [("type", .string "array"), ("items", value)])
        (.object [("type", .string "array"), ("items", value')]) :=
    .member [("type", .string "array")] [] "items"
      (show ("items", Place.property) ∈ Place.property.attributes by decide) inside
  have tag : Inserts .schema (petDocument [] [] [] [] format)
      (petDocument [] [] [] [("definitions", .object [("Tag", .null)])] format) :=
    at_pet (at_tags (at_items (.unknown [] _ _ _ rfl (by decide))))
  have properties : Inserts .schema _
      (petDocument [] [] [("properties", .array [])]
        [("definitions", .object [("Tag", .null)])] format) :=
    at_pet (at_tags (.unknown [] _ _ _ rfl (by decide)))
  have type : Inserts .schema _
      (petDocument [] [("type", .string "object")] [("properties", .array [])]
        [("definitions", .object [("Tag", .null)])] format) :=
    at_pet (.unknown [] _ _ _ rfl (by decide))
  have items : Inserts .schema _ (completePetDocument format) :=
    .unknown [] _ _ _ rfl (by decide)
  exact .tail (.tail (.tail (.single tag) properties) type) items

theorem Schema.petDocument_read_alike :
    (Relation.ReflTransGen (Inserts .schema) (petDocument [] [] [] [] (.string "date"))
        (completePetDocument (.string "date")) ∧
      Schema.ofJson (completePetDocument (.string "date")) = .ok
        { definitions := .ofEntries [("Pet", { properties := .ofEntries [("tags",
            { type := some .array
              items := some { type := some .string, format := some .date } })] })] }) ∧
    Relation.ReflTransGen (Inserts .schema) (petDocument [] [] [] [] (.bool true))
        (completePetDocument (.bool true)) ∧
      (Schema.ofJson (completePetDocument (.bool true))).mapError DecodeError.message =
        .error "invalid type: boolean `true`, expected string or map" := by
  have read (format : Json) := Schema.ofJson_of_insertions (petDocument_insertions format)
  refine ⟨⟨petDocument_insertions _, ?_⟩, petDocument_insertions _, ?_⟩
  · rw [read]
    rfl
  · rw [read]
    rfl

end SchemaForms
