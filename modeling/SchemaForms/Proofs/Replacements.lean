import Mathlib.Data.List.Forall2
import SchemaForms.Proofs.Flatten
/-! Flattening as a list of replacements, which the rules and the given properties decide before any
of them is made. The value under a key is what the replacements do to it one after another; the keys
that stay come first, in their order, and those brought in behind them. -/
namespace SchemaForms

/-- A property that gives way to the properties behind its reference. -/
structure Replacement where
  owner : String
  mode : FlattenMode
  referenced : Properties

namespace Replacement

def apply (properties : Properties) (replacement : Replacement) : Properties :=
  properties.inline replacement.mode replacement.owner replacement.referenced

/-- The referenced property that lands under a key: the one of that name, or the one whose name
follows the owner's and a dot. -/
def landing? (replacement : Replacement) (key : String) : Option Property :=
  match replacement.mode with
  | .merge => replacement.referenced.get? key
  | .prefixed =>
    (replacement.referenced.entries.find? fun entry =>
      replacement.owner ++ "." ++ entry.1 = key).map Prod.snd

/-- What a replacement does to the value under a key. -/
def replay (key : String) (current : Option Property) (replacement : Replacement) :
    Option Property :=
  if key = replacement.owner then none
  else match replacement.landing? key with
    | none => current
    | some landed =>
      match replacement.mode, current with
      | .merge, some existing => some (existing.overlay landed)
      | _, _ => some landed

theorem get?_map_key {α : Type} (rename : String → String) (entries : Entries α) (key : String) :
    Entries.get? (entries.map fun entry => (rename entry.1, entry.2)) key =
      (entries.find? fun entry => rename entry.1 = key).map Prod.snd := by
  induction entries with
  | nil => rfl
  | cons entry rest ih =>
    rw [List.map_cons, Entries.get?_cons, ih]
    by_cases here : rename entry.1 = key <;> simp [here]

theorem landing?_eq (replacement : Replacement) (key : String) :
    replacement.landing? key =
      replacement.mode.supplied? replacement.owner replacement.referenced key := by
  unfold landing?
  cases replacement.mode with
  | merge => exact (FlattenMode.supplied?_merge _ _ _).symm
  | prefixed => exact (get?_map_key _ _ _).symm

/-- One replacement, seen at one key. -/
theorem get?_apply (replacement : Replacement) (properties : Properties) (key : String) :
    (replacement.apply properties).get? key = replacement.replay key (properties.get? key) := by
  rw [apply, Properties.get?_inline, replay, landing?_eq]
  by_cases here : replacement.owner = key
  · rw [if_pos here, if_pos here.symm]
  · rw [if_neg here, if_neg (Ne.symm here)]
    cases replacement.mode.supplied? replacement.owner replacement.referenced key with
    | none => rfl
    | some landed => cases replacement.mode <;> cases properties.get? key <;> rfl

/-- A run of replacements, seen at one key. -/
theorem get?_foldl_apply (replacements : List Replacement) (properties : Properties)
    (key : String) :
    (replacements.foldl apply properties).get? key =
      replacements.foldl (replay key) (properties.get? key) := by
  induction replacements generalizing properties with
  | nil => rfl
  | cons replacement rest ih => rw [List.foldl_cons, List.foldl_cons, ih, get?_apply]

/-- New keys are put behind the others. -/
theorem keys_foldl_place (mode : FlattenMode) (owner : String) (referenced : Entries Property)
    (properties : Properties) :
    ∃ added, (referenced.foldl (mode.place owner) properties).keys = properties.keys ++ added ∧
      ∀ key ∈ added, ∃ entry ∈ referenced, mode.key owner entry.1 = key := by
  induction referenced generalizing properties with
  | nil => exact ⟨[], (List.append_nil _).symm, nofun⟩
  | cons entry rest ih =>
    obtain ⟨added, keys_eq, from_rest⟩ := ih (mode.place owner properties entry)
    have later : ∀ key ∈ added, ∃ other ∈ entry :: rest, mode.key owner other.1 = key := by
      intro key member
      obtain ⟨other, among, same⟩ := from_rest key member
      exact ⟨other, List.mem_cons_of_mem _ among, same⟩
    rw [List.foldl_cons, keys_eq, mode.place_eq]
    by_cases present : mode.key owner entry.1 ∈ properties.keys
    · exact ⟨added, congrArg (· ++ added) (Entries.keys_upsert_of_mem present), later⟩
    · refine ⟨mode.key owner entry.1 :: added, ?_, List.forall_mem_cons.mpr ⟨?_, later⟩⟩
      · rw [List.append_cons]
        exact congrArg (· ++ added) (Entries.keys_upsert_of_not_mem present)
      · exact ⟨entry, List.mem_cons_self, rfl⟩

theorem keys_apply (replacement : Replacement) (properties : Properties) :
    ∃ added,
      (replacement.apply properties).keys =
        (properties.keys ++ added).filter (· ≠ replacement.owner) ∧
      ∀ key ∈ added, (replacement.landing? key).isSome := by
  obtain ⟨added, keys_eq, brought⟩ := keys_foldl_place replacement.mode replacement.owner
    replacement.referenced.entries properties
  refine ⟨added, ?_, fun key member => ?_⟩
  · rw [← keys_eq]
    exact Entries.keys_erase _ _
  · obtain ⟨entry, among, same⟩ := brought key member
    rw [landing?_eq, FlattenMode.supplied?, Entries.isSome_get?_iff, Entries.keys, List.map_map]
    exact List.mem_map.mpr ⟨entry, among, same⟩

/-- The keys that no replacement owns stay in front, in their order. -/
theorem keys_foldl_apply (replacements : List Replacement) (properties : Properties) :
    ∃ introduced,
      (replacements.foldl apply properties).keys =
        properties.keys.filter (· ∉ replacements.map owner) ++ introduced ∧
      ∀ key ∈ introduced, ∃ replacement ∈ replacements, (replacement.landing? key).isSome := by
  induction replacements generalizing properties with
  | nil => exact ⟨[], by simp, nofun⟩
  | cons replacement rest ih =>
    obtain ⟨added, keys_eq, landed⟩ := keys_apply replacement properties
    obtain ⟨later, later_eq, from_rest⟩ := ih (replacement.apply properties)
    refine ⟨(added.filter (· ≠ replacement.owner)).filter (· ∉ rest.map owner) ++ later, ?_, ?_⟩
    · have stays : (properties.keys.filter (· ≠ replacement.owner)).filter
          (· ∉ rest.map owner) = properties.keys.filter (· ∉ (replacement :: rest).map owner) := by
        rw [List.filter_filter]
        apply List.filter_congr
        intro key _
        rw [List.map_cons]
        generalize rest.map owner = owners
        simp [Bool.and_comm]
      rw [List.foldl_cons, later_eq, keys_eq, List.filter_append, List.filter_append, stays,
        List.append_assoc]
    · intro key member
      rcases List.mem_append.mp member with here | there
      · have among := List.mem_of_mem_filter (List.mem_of_mem_filter here)
        exact ⟨replacement, List.mem_cons_self, landed key among⟩
      · obtain ⟨other, other_mem, supplies⟩ := from_rest key there
        exact ⟨other, List.mem_cons_of_mem _ other_mem, supplies⟩

end Replacement

/-- The property has a flatten rule and a reference. -/
def RuleSet.follows (rules : RuleSet) (entry : String × Property) : Bool :=
  (rules.field? entry.1).any FieldRule.flatten && entry.2.reference.isSome

namespace Schema

/-- How a property is replaced by its rule and its reference. -/
structure IsReplacement (schema : Schema) (rules : RuleSet) (entry : String × Property)
    (replacement : Replacement) : Prop where
  owner : replacement.owner = entry.1
  mode : ∃ rule, rules.field? entry.1 = some rule ∧
    replacement.mode = if rule.prefixed then .prefixed else .merge
  referenced : ∃ reference, entry.2.reference = some reference ∧
    schema.resolve? reference = some replacement.referenced

section
variable {schema : Schema} {definition : String} {rules : RuleSet}

theorem owners_eq {entries : Entries Property} {replacements : List Replacement}
    (all : List.Forall₂ (schema.IsReplacement rules) entries replacements) :
    replacements.map Replacement.owner = Entries.keys entries := by
  induction all with
  | nil => rfl
  | cons here _ ih => rw [List.map_cons, Entries.keys_cons, here.owner, ih]

/-- The names of the properties that are not followed are those that no replacement owns. -/
theorem keys_filter_owners {properties : Properties} {replacements : List Replacement}
    (all : List.Forall₂ (schema.IsReplacement rules) (properties.entries.filter rules.follows)
      replacements) :
    properties.keys.filter (· ∉ replacements.map Replacement.owner) =
      Entries.keys (properties.entries.filter fun entry => !rules.follows entry) := by
  rw [owners_eq all, OrderedMap.keys, Entries.keys, Entries.keys, List.filter_map]
  refine congrArg (List.map Prod.fst) (List.filter_congr fun entry member => ?_)
  cases follows : rules.follows entry with
  | true =>
    have owned : entry.1 ∈ Entries.keys (properties.entries.filter rules.follows) :=
      List.mem_map_of_mem (List.mem_filter.mpr ⟨member, follows⟩)
    exact decide_eq_false (not_not_intro owned)
  | false =>
    have free : entry.1 ∉ Entries.keys (properties.entries.filter rules.follows) := by
      intro owned
      obtain ⟨other, among, same⟩ := List.mem_map.mp owned
      rw [List.mem_filter] at among
      have same_entry := List.inj_on_of_nodup_map properties.nodup among.1 member same
      rw [← same_entry, among.2] at follows
      cases follows
    exact decide_eq_true free

theorem flattenProperty_of_not_follows {entry : String × Property}
    (stays : rules.follows entry = false) (properties : Properties) :
    schema.flattenProperty definition rules properties entry = .ok properties := by
  unfold RuleSet.follows at stays
  unfold flattenProperty
  cases has_rule : rules.field? entry.1 with
  | none => rfl
  | some rule =>
    cases flattens : rule.flatten with
    | false => rw [Option.filter_some_neg (by simp [flattens])]
    | true =>
      cases refers : entry.2.reference with
      | none => rw [Option.filter_some_pos flattens]
      | some reference => simp [has_rule, flattens, refers] at stays

theorem flattenProperty_ok_iff {entry : String × Property} (follows : rules.follows entry = true)
    {properties next : Properties} :
    schema.flattenProperty definition rules properties entry = .ok next ↔
      ∃ replacement, schema.IsReplacement rules entry replacement ∧
        next = replacement.apply properties := by
  unfold RuleSet.follows at follows
  unfold flattenProperty
  cases has_rule : rules.field? entry.1 with
  | none => simp [has_rule] at follows
  | some rule =>
    cases refers : entry.2.reference with
    | none => simp [refers] at follows
    | some reference =>
      have flattens : rule.flatten = true := by simpa [has_rule, refers] using follows
      rw [Option.filter_some_pos flattens]
      simp only [inlineReference, follow]
      constructor
      · intro done
        cases resolved : schema.resolve? reference with
        | none => rw [resolved] at done; cases done
        | some referenced =>
          rw [resolved] at done
          cases done
          exact ⟨⟨entry.1, _, referenced⟩,
            ⟨rfl, ⟨rule, has_rule, rfl⟩, reference, refers, resolved⟩, rfl⟩
      · rintro ⟨⟨owner, mode, referenced⟩,
          ⟨owner_eq, ⟨_, named, mode_eq⟩, _, points, resolved⟩, rfl⟩
        cases has_rule.symm.trans named
        cases refers.symm.trans points
        cases owner_eq
        cases mode_eq
        rw [resolved]
        rfl

/-- The pass makes the replacements of the given properties, and nothing else. -/
theorem foldlM_flattenProperty_ok_iff {entries : Entries Property}
    {properties flattened : Properties} :
    entries.foldlM (schema.flattenProperty definition rules) properties = .ok flattened ↔
      ∃ replacements,
        List.Forall₂ (schema.IsReplacement rules) (entries.filter rules.follows) replacements ∧
        flattened = replacements.foldl Replacement.apply properties := by
  induction entries generalizing properties with
  | nil =>
    constructor
    · intro done
      cases done
      exact ⟨[], .nil, rfl⟩
    · rintro ⟨replacements, all, rfl⟩
      cases all
      rfl
  | cons entry rest ih =>
    rw [List.foldlM_cons, bind_ok_iff]
    cases follows : rules.follows entry with
    | false =>
      rw [List.filter_cons_of_neg (by simp [follows]), flattenProperty_of_not_follows follows]
      simp only [Except.ok.injEq, exists_eq_left']
      exact ih
    | true =>
      rw [List.filter_cons_of_pos follows]
      constructor
      · rintro ⟨next, first, later⟩
        obtain ⟨replacement, here, rfl⟩ := (flattenProperty_ok_iff follows).mp first
        obtain ⟨replacements, others, rfl⟩ := ih.mp later
        exact ⟨replacement :: replacements, .cons here others, rfl⟩
      · rintro ⟨_, all, rfl⟩
        cases all with
        | cons here others =>
          exact ⟨_, (flattenProperty_ok_iff follows).mpr ⟨_, here, rfl⟩, ih.mpr ⟨_, others, rfl⟩⟩

end

theorem follow_congr {first second : Schema} {reference : String}
    (same : first.resolve? reference = second.resolve? reference) (definition property : String) :
    first.follow definition property reference = second.follow definition property reference := by
  rw [follow, follow, same]

/-- The schema is asked for the references of the given properties alone, so none that a replacement
brings in is followed. -/
theorem flattenProperties_congr {first second : Schema} {properties : Properties} {rules : RuleSet}
    (same : ∀ entry ∈ properties.entries.filter rules.follows, ∀ reference,
      entry.2.reference = some reference →
        first.resolve? reference = second.resolve? reference) (definition : String) :
    first.flattenProperties definition properties rules =
      second.flattenProperties definition properties rules := by
  refine foldlM_congr_of_mem (fun entry member current => ?_) properties
  cases follows : rules.follows entry with
  | false =>
    rw [flattenProperty_of_not_follows follows, flattenProperty_of_not_follows follows]
  | true =>
    have same_here := same entry (List.mem_filter.mpr ⟨member, follows⟩)
    unfold flattenProperty
    cases (rules.field? entry.1).filter FieldRule.flatten with
    | none => rfl
    | some rule =>
      cases refers : entry.2.reference with
      | none => rfl
      | some reference =>
        exact congrArg (Except.map _) (follow_congr (same_here reference refers) _ _)

/-- Flattening replaces the properties with a flatten rule and a reference, one after another. What
it leaves under a key is what was there, changed by each replacement in turn. The other keys come
first, in their order, and then the keys brought in. Only the references of the given properties
count, not those of properties brought in. -/
theorem flattenProperties_replays {schema : Schema} {definition : String}
    {properties flattened : Properties} {rules : RuleSet}
    (done : schema.flattenProperties definition properties rules = .ok flattened) :
    ∃ replacements,
      List.Forall₂ (schema.IsReplacement rules) (properties.entries.filter rules.follows)
        replacements ∧
      (∀ key, flattened.get? key =
        replacements.foldl (Replacement.replay key) (properties.get? key)) ∧
      (∃ introduced,
        flattened.keys =
          Entries.keys (properties.entries.filter fun entry => !rules.follows entry) ++
            introduced ∧
        ∀ key ∈ introduced, ∃ replacement ∈ replacements,
          (replacement.landing? key).isSome) ∧
      ∀ other : Schema,
        (∀ entry ∈ properties.entries.filter rules.follows, ∀ reference,
          entry.2.reference = some reference →
            other.resolve? reference = schema.resolve? reference) →
        other.flattenProperties definition properties rules = .ok flattened := by
  obtain ⟨replacements, all, flattened_eq⟩ := foldlM_flattenProperty_ok_iff.mp done
  refine ⟨replacements, all, fun key => ?_, ?_,
    fun other same => (flattenProperties_congr same definition).trans done⟩
  · rw [flattened_eq, Replacement.get?_foldl_apply]
  · rw [flattened_eq, ← keys_filter_owners all]
    exact Replacement.keys_foldl_apply replacements properties

/-- A member has an address, a home of which the parts keep their prefix, and a contact. The address
and the contact each bring in a property that is named like the other. -/
def members : Schema :=
  let address : Properties := .ofEntries
    [("name", { description := some "Addressee" }), ("contact", { type := some .integer }),
     ("city", { type := some .string })]
  let contact : Properties := .ofEntries
    [("phone", { type := some .string }),
     ("address", { reference := some "#/definitions/Address" })]
  let member : Properties := .ofEntries
    [("address", { reference := some "#/definitions/Address" }),
     ("home", { reference := some "#/definitions/Home" }), ("name", { type := some .string }),
     ("contact", { reference := some "#/definitions/Contact" }),
     ("home.street", { description := some "Way home" })]
  let home : Properties := .ofEntries
    [("street", { type := some .string }), ("zip", { type := some .string })]
  { definitions := .ofEntries
      [("Member", { properties := member }), ("Address", { properties := address }),
       ("Contact", { properties := contact }), ("Home", { properties := home })] }

def memberProperties : Properties := (members.resolve? "#/definitions/Member").getD {}

def memberRules : RuleSet :=
  { fields := .ofEntries
      [("contact", { flatten := true }), ("home", { flatten := true, prefixed := true }),
       ("name", { flatten := true }), ("address", { flatten := true })] }

def flattenedMember : Properties :=
  .ofEntries
    [("name", { type := some .string, description := some "Addressee" }),
     ("home.street", { type := some .string }), ("city", { type := some .string }),
     ("home.zip", { type := some .string }), ("phone", { type := some .string }),
     ("address", { reference := some "#/definitions/Address" })]

theorem flattenProperties_members :
    members.flattenProperties "Member" memberProperties memberRules = .ok flattenedMember := by
  decide

/-- The address that the contact brings in stays a reference, and the contact that the address
brings in is gone with the contact. -/
theorem flattenedMember_replays :
    members.flattenProperties "Member" memberProperties memberRules = .ok flattenedMember ∧
      Entries.keys (memberProperties.entries.filter memberRules.follows) =
        ["address", "home", "contact"] ∧
      ∃ replacements introduced,
        List.Forall₂ (members.IsReplacement memberRules)
          (memberProperties.entries.filter memberRules.follows) replacements ∧
        (∀ key, flattenedMember.get? key =
          replacements.foldl (Replacement.replay key) (memberProperties.get? key)) ∧
        flattenedMember.keys = ["name", "home.street"] ++ introduced := by
  obtain ⟨replacements, all, replayed, ⟨introduced, keys_eq, _⟩, _⟩ :=
    flattenProperties_replays flattenProperties_members
  exact ⟨flattenProperties_members, by decide, replacements, introduced, all, replayed, keys_eq⟩

end Schema
end SchemaForms
