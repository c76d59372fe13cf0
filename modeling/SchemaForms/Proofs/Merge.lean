import SchemaForms.Json.Basic
import SchemaForms.Proofs.OrderedMap
/-! Laws of laying one document over another. Merging is seen through the keys of an object and the
member under each key; it is associative except where a scalar or list stands between mappings. -/
namespace SchemaForms.Json

/-- The names of an object's members; other values have none. -/
def keys (value : Json) : List String := Entries.keys (value.members?.getD [])

theorem isObject_iff {value : Json} : value.isObject ↔ ∃ members, value = .object members := by
  cases value <;> simp [isObject, members?]

theorem merge_of_not_isObject {upper : Json} (scalar : upper.isObject = false) (lower : Json) :
    merge lower upper = upper := by
  cases upper with
  | object members => cases scalar
  | _ => rfl

theorem isObject_merge (lower upper : Json) : (merge lower upper).isObject = upper.isObject := by
  cases upper with
  | object overlay => cases lower <;> rfl
  | _ => rfl

theorem get?_of_not_isObject {value : Json} (scalar : value.isObject = false) (key : String) :
    value.get? key = none := by
  cases value with
  | object members => cases scalar
  | _ => rfl

theorem isObject_of_get? {value inner : Json} {key : String} (found : value.get? key = some inner) :
    value.isObject := by
  by_contra scalar
  rw [get?_of_not_isObject (Bool.eq_false_iff.mpr scalar)] at found
  cases found

theorem sizeOf_lt_of_get? {value inner : Json} {key : String}
    (found : value.get? key = some inner) : sizeOf inner < sizeOf value := by
  obtain ⟨members, rfl⟩ := isObject_iff.mp (isObject_of_get? found)
  have member : (key, inner) ∈ members := Entries.mem_of_get? found
  have below := List.sizeOf_lt_of_mem member
  simp only [Prod.mk.sizeOf_spec, Json.object.sizeOf_spec] at below ⊢
  omega

/-- A property of all values follows when each object has it as soon as its members do. -/
theorem member_induction {motive : Json → Prop}
    (step : ∀ value, (∀ key inner, value.get? key = some inner → motive inner) → motive value)
    (value : Json) : motive value :=
  step value (fun _ inner _ => member_induction step inner)
termination_by sizeOf value
decreasing_by exact sizeOf_lt_of_get? ‹_›

/-- Objects are told apart by their keys and members. -/
theorem eq_of_get? {first second : Json} (object : first.isObject) (object' : second.isObject)
    (nodup : first.keys.Nodup) (same_keys : first.keys = second.keys)
    (same : ∀ key, first.get? key = second.get? key) : first = second := by
  obtain ⟨members, rfl⟩ := isObject_iff.mp object
  obtain ⟨members', rfl⟩ := isObject_iff.mp object'
  exact congrArg Json.object (Entries.ext_of_get? nodup same_keys same)

theorem wellFormedMembers_iff {members : List (String × Json)} :
    WellFormedMembers members ↔ ∀ member ∈ members, member.2.WellFormed := by
  induction members with
  | nil => simp [WellFormedMembers]
  | cons member rest ih =>
    obtain ⟨name, value⟩ := member
    simp [WellFormedMembers, ih]

theorem wellFormedItems_iff {items : List Json} :
    WellFormedItems items ↔ ∀ item ∈ items, item.WellFormed := by
  induction items with
  | nil => simp [WellFormedItems]
  | cons item rest ih => simp [WellFormedItems, ih]

theorem WellFormed.nodup_keys {value : Json} (wellFormed : value.WellFormed) :
    value.keys.Nodup := by
  cases value with
  | object members =>
    rw [WellFormed] at wellFormed
    exact wellFormed.1
  | _ => exact List.nodup_nil

theorem WellFormed.of_get? {value inner : Json} (wellFormed : value.WellFormed) {key : String}
    (found : value.get? key = some inner) : inner.WellFormed := by
  obtain ⟨members, rfl⟩ := isObject_iff.mp (isObject_of_get? found)
  rw [WellFormed] at wellFormed
  exact wellFormedMembers_iff.mp wellFormed.2 _ (Entries.mem_of_get? found)

theorem wellFormed_of_members {value : Json} (object : value.isObject) (nodup : value.keys.Nodup)
    (inner : ∀ key member, value.get? key = some member → member.WellFormed) :
    value.WellFormed := by
  obtain ⟨members, rfl⟩ := isObject_iff.mp object
  rw [WellFormed]
  refine ⟨nodup, wellFormedMembers_iff.mpr ?_⟩
  intro member present
  exact inner member.1 member.2 (Entries.get?_of_mem nodup present)

/-- The member under a key of two merged objects. -/
def mergeMember : (lower upper : Option Json) → Option Json
  | lower, none => lower
  | none, some upper => some upper
  | some lower, some upper => some (merge lower upper)

@[simp] theorem mergeMember_none_left (upper : Option Json) : mergeMember none upper = upper := by
  cases upper <;> rfl

@[simp] theorem mergeMember_none_right (lower : Option Json) : mergeMember lower none = lower := by
  cases lower <;> rfl

theorem get?_mergeMembers (base overlay : Entries Json) (nodup : (Entries.keys overlay).Nodup)
    (key : String) :
    Entries.get? (mergeMembers base overlay) key =
      mergeMember (Entries.get? base key) (Entries.get? overlay key) := by
  induction overlay generalizing base with
  | nil => rw [mergeMembers, Entries.get?_nil, mergeMember_none_right]
  | cons member rest ih =>
    obtain ⟨name, value⟩ := member
    rw [Entries.keys_cons, List.nodup_cons] at nodup
    rw [mergeMembers, ih _ nodup.2, Entries.get?_upsert, Entries.get?_cons]
    by_cases same : name = key
    · subst same
      rw [if_pos rfl, if_pos rfl, Entries.get?_eq_none_iff.mpr nodup.1, mergeMember_none_right]
      cases Entries.get? base name <;> rfl
    · rw [if_neg same, if_neg same]

theorem keys_mergeMembers (base overlay : Entries Json) (nodup : (Entries.keys overlay).Nodup) :
    Entries.keys (mergeMembers base overlay) =
      Entries.keys base ++ (Entries.keys overlay).filter (· ∉ Entries.keys base) := by
  induction overlay generalizing base with
  | nil => simp [mergeMembers]
  | cons member rest ih =>
    obtain ⟨name, value⟩ := member
    rw [Entries.keys_cons, List.nodup_cons] at nodup
    rw [mergeMembers, ih _ nodup.2, Entries.keys_cons, List.filter_cons]
    by_cases present : name ∈ Entries.keys base
    · simp [Entries.keys_upsert_of_mem present, present]
    · have rest_eq : (Entries.keys rest).filter (· ∉ Entries.keys base ++ [name]) =
          (Entries.keys rest).filter (· ∉ Entries.keys base) := by
        apply List.filter_congr
        intro other member
        have differs : other ≠ name := fun same => nodup.1 (same ▸ member)
        simp [differs]
      rw [Entries.keys_upsert_of_not_mem present, rest_eq]
      simp [present]

theorem get?_merge {upper : Json} (object : upper.isObject) (nodup : upper.keys.Nodup)
    (lower : Json) (key : String) :
    (merge lower upper).get? key = mergeMember (lower.get? key) (upper.get? key) := by
  obtain ⟨overlay, rfl⟩ := isObject_iff.mp object
  cases lower with
  | object base => exact get?_mergeMembers base overlay nodup key
  | _ => exact (mergeMember_none_left _).symm

theorem keys_merge {upper : Json} (object : upper.isObject) (nodup : upper.keys.Nodup)
    (lower : Json) :
    (merge lower upper).keys = lower.keys ++ upper.keys.filter (· ∉ lower.keys) := by
  obtain ⟨overlay, rfl⟩ := isObject_iff.mp object
  cases lower with
  | object base => exact keys_mergeMembers base overlay nodup
  | _ => simp [merge, keys, members?]

theorem nodup_keys_merge {lower upper : Json} (lower_nodup : lower.keys.Nodup)
    (upper_nodup : upper.keys.Nodup) : (merge lower upper).keys.Nodup := by
  cases object : upper.isObject with
  | false =>
    rw [merge_of_not_isObject object]
    exact upper_nodup
  | true =>
    rw [keys_merge object upper_nodup]
    refine List.Nodup.append lower_nodup (upper_nodup.filter _) ?_
    intro key in_lower in_rest
    simp only [List.mem_filter, decide_eq_true_eq] at in_rest
    exact in_rest.2 in_lower

theorem WellFormed.merge {lower upper : Json} (lower_wellFormed : lower.WellFormed)
    (upper_wellFormed : upper.WellFormed) : (lower.merge upper).WellFormed := by
  induction upper using member_induction generalizing lower with
  | step upper ih =>
    cases object : upper.isObject with
    | false =>
      rw [merge_of_not_isObject object]
      exact upper_wellFormed
    | true =>
      apply wellFormed_of_members
      · rw [isObject_merge, object]
      · exact nodup_keys_merge lower_wellFormed.nodup_keys upper_wellFormed.nodup_keys
      · intro key member found
        rw [get?_merge object upper_wellFormed.nodup_keys] at found
        cases on_top : upper.get? key with
        | none =>
          rw [on_top, mergeMember_none_right] at found
          exact lower_wellFormed.of_get? found
        | some above =>
          cases under : lower.get? key with
          | none =>
            rw [on_top, under, mergeMember_none_left, Option.some.injEq] at found
            exact found ▸ upper_wellFormed.of_get? on_top
          | some below =>
            rw [on_top, under, mergeMember, Option.some.injEq] at found
            exact found ▸ ih key above on_top (lower_wellFormed.of_get? under)
              (upper_wellFormed.of_get? on_top)

/-- The empty object is a lowest layer without effect. -/
theorem merge_empty_left {value : Json} (wellFormed : value.WellFormed) :
    merge (.object []) value = value := by
  cases object : value.isObject with
  | false => exact merge_of_not_isObject object _
  | true =>
    have nodup := wellFormed.nodup_keys
    have keys_eq : (merge (.object []) value).keys = value.keys := by
      rw [keys_merge object nodup]
      simp [keys, members?]
    refine eq_of_get? (by rw [isObject_merge, object]) object (keys_eq ▸ nodup) keys_eq ?_
    intro key
    rw [get?_merge object nodup]
    exact mergeMember_none_left _

/-- The value at a path of member names. -/
def at? (value : Json) : List String → Option Json
  | [] => some value
  | key :: path => (value.get? key).bind (at? · path)

/-- Where both have a value and the upper one is a mapping, so is the lower one. -/
def MeetsMappings (lower upper : Json) : Prop :=
  ∀ path below above, lower.at? path = some below → upper.at? path = some above →
    above.isObject → below.isObject

theorem MeetsMappings.of_get? {lower upper below above : Json} (meets : MeetsMappings lower upper)
    {key : String} (under : lower.get? key = some below) (on_top : upper.get? key = some above) :
    MeetsMappings below above := by
  intro path inner inner' at_lower at_upper
  refine meets (key :: path) inner inner' ?_ ?_
  · rwa [at?, under]
  · rwa [at?, on_top]

/-- The condition concerns only members that both objects have. -/
theorem meetsMappings_of_members {lower : Json} {members : Entries Json} (object : lower.isObject)
    (inside : ∀ member ∈ members, ∀ below, lower.get? member.1 = some below →
      MeetsMappings below member.2) : MeetsMappings lower (.object members) := by
  intro path below above at_lower at_upper
  cases path with
  | nil =>
    cases at_lower
    exact fun _ => object
  | cons key path =>
    obtain ⟨lower', under, at_lower⟩ := Option.bind_eq_some_iff.mp at_lower
    obtain ⟨upper', on_top, at_upper⟩ := Option.bind_eq_some_iff.mp at_upper
    have member : (key, upper') ∈ members := Entries.mem_of_get? on_top
    exact inside _ member lower' under path below above at_lower at_upper

theorem meetsMappings_of_not_isObject {upper : Json} (scalar : upper.isObject = false)
    (lower : Json) : MeetsMappings lower upper := by
  intro path below above _ at_upper object
  cases path with
  | nil =>
    cases at_upper
    rw [scalar] at object
    cases object
  | cons key path =>
    rw [at?, get?_of_not_isObject scalar] at at_upper
    cases at_upper

theorem filter_not_mem_append (first second third : List String) :
    third.filter (· ∉ first ++ second.filter (· ∉ first)) =
      (third.filter (· ∉ second)).filter (· ∉ first) := by
  rw [List.filter_filter]
  apply List.filter_congr
  intro key _
  by_cases in_first : key ∈ first <;> simp [in_first]

/-- Layers may be grouped as long as no scalar or list hides the mappings below it from a mapping
above it. -/
theorem merge_assoc {lowest lower upper : Json} (lowest_wellFormed : lowest.WellFormed)
    (lower_wellFormed : lower.WellFormed) (upper_wellFormed : upper.WellFormed)
    (meets : MeetsMappings lower upper) :
    merge (merge lowest lower) upper = merge lowest (merge lower upper) := by
  induction upper using member_induction generalizing lowest lower with
  | step upper ih =>
    cases object : upper.isObject with
    | false =>
      rw [merge_of_not_isObject object, merge_of_not_isObject object,
        merge_of_not_isObject object]
    | true =>
      have lower_object : lower.isObject := meets [] lower upper rfl rfl object
      have merged_object : (merge lower upper).isObject := by rw [isObject_merge, object]
      have nodup := upper_wellFormed.nodup_keys
      have lower_nodup := lower_wellFormed.nodup_keys
      have merged_nodup := nodup_keys_merge lower_nodup nodup
      have left_nodup :=
        nodup_keys_merge (nodup_keys_merge lowest_wellFormed.nodup_keys lower_nodup) nodup
      refine eq_of_get? ?_ ?_ left_nodup ?_ ?_
      · rw [isObject_merge, object]
      · rw [isObject_merge, merged_object]
      · rw [keys_merge object nodup, keys_merge lower_object lower_nodup,
          keys_merge merged_object merged_nodup, keys_merge object nodup, List.append_assoc,
          List.filter_append, filter_not_mem_append]
      · intro key
        rw [get?_merge object nodup, get?_merge lower_object lower_nodup,
          get?_merge merged_object merged_nodup, get?_merge object nodup]
        cases on_top : upper.get? key with
        | none => rw [mergeMember_none_right, mergeMember_none_right]
        | some above =>
          cases middle : lower.get? key with
          | none => rw [mergeMember_none_right, mergeMember_none_left]
          | some between =>
            cases under : lowest.get? key with
            | none => rw [mergeMember_none_left, mergeMember_none_left]
            | some below =>
              have inner := ih key above on_top (lowest_wellFormed.of_get? under)
                (lower_wellFormed.of_get? middle) (upper_wellFormed.of_get? on_top)
                (meets.of_get? middle on_top)
              simp only [mergeMember, inner]

end SchemaForms.Json
