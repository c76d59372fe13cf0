import Mathlib.Data.List.Induction
import SchemaForms.Proofs.RuleLayers
/-! Merging seen along paths of member names. A scalar or list of the upper value hides whatever the
lower one holds below it; elsewhere the upper value wins where it has one, and objects that meet
are merged. -/
namespace SchemaForms.Json

/-- Before its end the path comes to a scalar or list. -/
def Blocks (value : Json) (path : List String) : Prop :=
  ∃ before after inner, path = before ++ after ∧ after ≠ [] ∧
    value.at? before = some inner ∧ inner.isObject = false

theorem not_blocks_nil (value : Json) : ¬ value.Blocks [] := by
  rintro ⟨before, after, inner, path_eq, nonempty, _, _⟩
  exact nonempty (List.append_eq_nil_iff.mp path_eq.symm).2

theorem blocks_cons_iff {value : Json} {key : String} {path : List String} :
    value.Blocks (key :: path) ↔
      value.isObject = false ∨ ∃ member, value.get? key = some member ∧ member.Blocks path := by
  constructor
  · rintro ⟨before, after, inner, path_eq, nonempty, found, scalar⟩
    cases before with
    | nil =>
      rw [at?, Option.some.injEq] at found
      exact .inl (found ▸ scalar)
    | cons first before =>
      rw [List.cons_append, List.cons.injEq] at path_eq
      obtain ⟨rfl, rfl⟩ := path_eq
      obtain ⟨member, here, found⟩ := Option.bind_eq_some_iff.mp found
      exact .inr ⟨member, here, before, after, inner, rfl, nonempty, found, scalar⟩
  · rintro (scalar | ⟨member, here, before, after, inner, rfl, nonempty, found, scalar⟩)
    · exact ⟨[], key :: path, value, rfl, List.cons_ne_nil _ _, rfl, scalar⟩
    · refine ⟨key :: before, after, inner, rfl, nonempty, ?_, scalar⟩
      rw [at?, here]
      exact found

theorem at?_of_blocks {value : Json} {path : List String} (blocks : value.Blocks path) :
    value.at? path = none := by
  induction path generalizing value with
  | nil => exact absurd blocks (not_blocks_nil value)
  | cons key path ih =>
    rw [at?]
    rcases blocks_cons_iff.mp blocks with scalar | ⟨member, here, blocks⟩
    · rw [get?_of_not_isObject scalar]
      rfl
    · rw [here]
      exact ih blocks

theorem at?_merge_of_blocks {upper : Json} (wellFormed : upper.WellFormed) {path : List String}
    (blocks : upper.Blocks path) (lower : Json) : (merge lower upper).at? path = none := by
  induction path generalizing lower upper with
  | nil => exact absurd blocks (not_blocks_nil upper)
  | cons key path ih =>
    rw [at?]
    rcases blocks_cons_iff.mp blocks with scalar | ⟨above, on_top, blocks⟩
    · rw [merge_of_not_isObject scalar, get?_of_not_isObject scalar]
      rfl
    · rw [get?_merge (isObject_of_get? on_top) wellFormed.nodup_keys, on_top]
      cases lower.get? key with
      | none => exact at?_of_blocks blocks
      | some below => exact ih (wellFormed.of_get? on_top) blocks below

/-- Where nothing of the upper value is in the way, both are merged as members are. -/
theorem at?_merge_of_not_blocks {upper : Json} (wellFormed : upper.WellFormed)
    {path : List String} (free : ¬ upper.Blocks path) (lower : Json) :
    (merge lower upper).at? path = mergeMember (lower.at? path) (upper.at? path) := by
  induction path generalizing lower upper with
  | nil => rfl
  | cons key path ih =>
    rw [blocks_cons_iff, not_or, Bool.not_eq_false] at free
    obtain ⟨object, free⟩ := free
    rw [at?, at?, at?, get?_merge object wellFormed.nodup_keys]
    cases on_top : upper.get? key with
    | none =>
      rw [mergeMember_none_right]
      exact (mergeMember_none_right _).symm
    | some above =>
      cases under : lower.get? key with
      | none => exact (mergeMember_none_left _).symm
      | some below =>
        exact ih (wellFormed.of_get? on_top) (fun blocks => free ⟨above, on_top, blocks⟩) below

theorem WellFormed.of_at? {value inner : Json} (wellFormed : value.WellFormed)
    {path : List String} (found : value.at? path = some inner) : inner.WellFormed := by
  induction path generalizing value with
  | nil => exact Option.some.inj found ▸ wellFormed
  | cons key path ih =>
    obtain ⟨member, here, found⟩ := Option.bind_eq_some_iff.mp found
    exact ih (wellFormed.of_get? here) found

/-- What is found along the paths of a value that results from laying one over another. -/
structure LaidOver (lower upper merged : Json) : Prop where
  hidden : ∀ path, upper.Blocks path → merged.at? path = none
  combined : ∀ path below above, lower.at? path = some below → upper.at? path = some above →
    below.isObject → above.isObject → merged.at? path = some (merge below above)
  replaced : ∀ path above, upper.at? path = some above →
    (∀ below, lower.at? path = some below → ¬ (below.isObject ∧ above.isObject)) →
    merged.at? path = some above
  kept : ∀ path, ¬ upper.Blocks path → upper.at? path = none →
    merged.at? path = lower.at? path
  /-- Where objects meet, the upper one adds its other keys behind those of the lower one. -/
  keys : ∀ path below above, lower.at? path = some below → upper.at? path = some above →
    below.isObject → above.isObject → ∃ inner, merged.at? path = some inner ∧ inner.isObject ∧
      inner.keys = below.keys ++ above.keys.filter (· ∉ below.keys) ∧ inner.keys.Nodup

theorem laidOver_merge {lower upper : Json} (lower_wellFormed : lower.WellFormed)
    (upper_wellFormed : upper.WellFormed) : LaidOver lower upper (merge lower upper) := by
  have merged_at {path : List String} {above : Json} (on_top : upper.at? path = some above) :
      (merge lower upper).at? path = mergeMember (lower.at? path) (some above) := by
    have free : ¬ upper.Blocks path := by
      intro blocks
      rw [at?_of_blocks blocks] at on_top
      cases on_top
    rw [at?_merge_of_not_blocks upper_wellFormed free, on_top]
  refine ⟨fun path blocks => at?_merge_of_blocks upper_wellFormed blocks lower, ?_, ?_, ?_, ?_⟩
  · intro path below above under on_top _ _
    rw [merged_at on_top, under]
    rfl
  · intro path above on_top apart
    rw [merged_at on_top]
    cases under : lower.at? path with
    | none => rfl
    | some below =>
      refine congrArg some ?_
      cases object : above.isObject with
      | false => exact merge_of_not_isObject object below
      | true =>
        obtain ⟨members, rfl⟩ := isObject_iff.mp object
        cases below with
        | object => exact absurd ⟨rfl, rfl⟩ (apart _ under)
        | _ => rfl
  · intro path free absent
    rw [at?_merge_of_not_blocks upper_wellFormed free, absent, mergeMember_none_right]
  · intro path below above under on_top _ object
    have below_nodup := (lower_wellFormed.of_at? under).nodup_keys
    have above_nodup := (upper_wellFormed.of_at? on_top).nodup_keys
    refine ⟨merge below above, ?_, ?_, keys_merge object above_nodup below,
      nodup_keys_merge below_nodup above_nodup⟩
    · rw [merged_at on_top, under]
      rfl
    · rw [isObject_merge, object]

/-- Layers laid one over another, the lowest over the empty object. Absent ones are passed over. -/
inductive Layered : List (Option Json) → Json → Prop where
  | empty : Layered [] (.object [])
  | absent {layers : List (Option Json)} {merged : Json} (lower : Layered layers merged) :
      Layered (layers ++ [none]) merged
  | present {layers : List (Option Json)} {below upper merged : Json}
      (lower : Layered layers below) (laid : LaidOver below upper merged) :
      Layered (layers ++ [some upper]) merged

theorem mergeLayers_concat (layers : List (Option Json)) (layer : Option Json) :
    mergeLayers (layers ++ [layer]) = (mergeLayers layers).mergeLayer layer := by
  rw [mergeLayers_eq_foldl, mergeLayers_eq_foldl, List.foldl_append]
  rfl

theorem layered_mergeLayers {layers : List (Option Json)}
    (each : ∀ layer ∈ layers, LayerWellFormed layer) : Layered layers (mergeLayers layers) := by
  induction layers using List.reverseRecOn with
  | nil => exact .empty
  | append_singleton layers layer ih =>
    rw [List.forall_mem_append, List.forall_mem_singleton] at each
    rw [mergeLayers_concat]
    cases layer with
    | none => exact .absent (ih each.1)
    | some upper =>
      exact .present (ih each.1)
        (laidOver_merge (wellFormed_mergeLayers each.1) (each.2 upper rfl))

/-- A path leads to nothing in merged values where it meets a scalar or list of the upper one before
its end, and else to the upper value, or the lower one where that has none; objects that meet are
merged, with the keys of the lower one in front. Layers are merged by a fold of such steps. -/
theorem merge_along_paths :
    (∀ lower upper : Json, lower.WellFormed → upper.WellFormed →
      LaidOver lower upper (merge lower upper)) ∧
    ∀ layers : List (Option Json),
      mergeLayers layers = layers.reduceOption.foldl merge (.object []) ∧
      ((∀ layer ∈ layers, LayerWellFormed layer) → Layered layers (mergeLayers layers)) :=
  ⟨fun _ _ lower_wellFormed upper_wellFormed => laidOver_merge lower_wellFormed upper_wellFormed,
    fun _ => ⟨rfl, layered_mergeLayers⟩⟩

/-- Ids are hidden and a flag is set. -/
def generalRules : Json := .object
  [("fields", .object
     [("id", .object [("type", .string "hidden")]), ("total", .object [("skip", .bool true)]),
      ("tags", .array [.string "new"])]),
   ("skip", .bool true)]

/-- An object stands over the flag, a null over an object, and a list over another. -/
def orderRules : Json := .object
  [("skip", .object [("update", .bool true)]),
   ("fields", .object
     [("total", .null), ("note", .object [("type", .string "memo")]), ("tags", .array []),
      ("id", .object [("extra", .object [("rows", .number (.int 4))])])])]

theorem generalRules_wellFormed : generalRules.WellFormed := by
  simp [generalRules, WellFormed, WellFormedMembers, WellFormedItems]

theorem orderRules_wellFormed : orderRules.WellFormed := by
  simp [orderRules, WellFormed, WellFormedMembers, WellFormedItems]

theorem orderRules_along_paths :
    generalRules.WellFormed ∧ orderRules.WellFormed ∧
      LaidOver generalRules orderRules (merge generalRules orderRules) ∧
      Layered [some generalRules, none, some orderRules] (merge generalRules orderRules) ∧
      (merge generalRules orderRules).at? ["fields", "total", "skip"] = none ∧
      (merge generalRules orderRules).at? ["skip", "update"] = some (.bool true) ∧
      (merge generalRules orderRules).at? ["fields", "id", "type"] = some (.string "hidden") ∧
      ((merge generalRules orderRules).at? ["fields"]).map keys =
        some ["id", "total", "tags", "note"] := by
  obtain ⟨merging, layering⟩ := merge_along_paths
  have laid := merging _ _ generalRules_wellFormed orderRules_wellFormed
  have each : ∀ layer ∈ [some generalRules, none, some orderRules], LayerWellFormed layer := by
    simp [LayerWellFormed, generalRules_wellFormed, orderRules_wellFormed]
  have layered := (layering _).2 each
  have merged_eq : mergeLayers [some generalRules, none, some orderRules] =
      merge generalRules orderRules := by
    decide
  have open_path : ¬ orderRules.Blocks ["fields", "id", "type"] := by
    simp [blocks_cons_iff, not_blocks_nil, orderRules, isObject, get?, members?, Entries.get?_cons]
  refine ⟨generalRules_wellFormed, orderRules_wellFormed, laid, merged_eq ▸ layered, ?_, ?_, ?_, ?_⟩
  · exact laid.hidden _ ⟨["fields", "total"], ["skip"], .null, rfl, by decide, by decide, rfl⟩
  · exact laid.replaced _ _ (by decide) fun _ _ objects => absurd objects.2 (by decide)
  · rw [laid.kept _ open_path (by decide)]
    decide
  · obtain ⟨inner, found, _, keys_eq, _⟩ := laid.keys ["fields"] _ _ rfl rfl rfl rfl
    rw [found, Option.map_some, keys_eq]
    decide

end SchemaForms.Json
