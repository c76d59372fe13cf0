import SchemaForms.Proofs.MergedPaths
/-! A layer that is laid over a document again changes nothing, since the document then has each of
its members already. So a definition may itself have the name of the rules for every definition. -/
namespace SchemaForms

namespace Json

/-- The upper value is in the lower one already. -/
def Absorbs (lower upper : Json) : Prop := merge lower upper = lower

theorem absorbs_object {members overlay : Entries Json}
    (inside : ∀ member ∈ overlay, ∃ existing,
      Entries.get? members member.1 = some existing ∧ Absorbs existing member.2) :
    Absorbs (.object members) (.object overlay) := by
  have unchanged : mergeMembers members overlay = members := by
    induction overlay with
    | nil => rfl
    | cons member rest ih =>
      obtain ⟨key, value⟩ := member
      rw [List.forall_mem_cons] at inside
      obtain ⟨⟨existing, found, absorbs⟩, later⟩ := inside
      rw [mergeMembers]
      refine Eq.trans (congrArg (mergeMembers · rest) ?_) (ih later)
      exact Entries.upsert_of_get? found absorbs
  exact congrArg Json.object unchanged

/-- An object absorbs another one when it has each of its members and absorbs what is under it. -/
theorem absorbs_of_members {lower upper : Json} (object : lower.isObject) (object' : upper.isObject)
    (nodup : upper.keys.Nodup)
    (inside : ∀ key value, upper.get? key = some value →
      ∃ existing, lower.get? key = some existing ∧ Absorbs existing value) :
    Absorbs lower upper := by
  obtain ⟨members, rfl⟩ := isObject_iff.mp object
  obtain ⟨overlay, rfl⟩ := isObject_iff.mp object'
  exact absorbs_object fun member among => inside _ _ (Entries.get?_of_mem nodup among)

theorem absorbs_self {value : Json} (wellFormed : value.WellFormed) : Absorbs value value := by
  induction value using member_induction with
  | step value ih =>
    cases object : value.isObject with
    | false => exact merge_of_not_isObject object value
    | true =>
      refine absorbs_of_members object object wellFormed.nodup_keys fun key inner found => ?_
      exact ⟨inner, found, ih key inner found (wellFormed.of_get? found)⟩

/-- What lies below the upper value does not matter, not even whether it has duplicate names. -/
theorem absorbs_merge {upper : Json} (wellFormed : upper.WellFormed) (lower : Json) :
    Absorbs (merge lower upper) upper := by
  induction upper using member_induction generalizing lower with
  | step upper ih =>
    cases object : upper.isObject with
    | false =>
      rw [Absorbs, merge_of_not_isObject object, merge_of_not_isObject object]
    | true =>
      have nodup := wellFormed.nodup_keys
      have merged : (merge lower upper).isObject := (isObject_merge lower upper).trans object
      refine absorbs_of_members merged object nodup fun key value found => ?_
      have inner := wellFormed.of_get? found
      -- The member was either added as it stands or merged into the one below it.
      rw [get?_merge object nodup, found]
      cases lower.get? key with
      | none => exact ⟨value, rfl, absorbs_self inner⟩
      | some below => exact ⟨merge below value, rfl, ih key value found inner below⟩

theorem mergeLayer_again {layer : Option Json} (wellFormed : LayerWellFormed layer) (base : Json) :
    (base.mergeLayer layer).mergeLayer layer = base.mergeLayer layer := by
  cases layer with
  | none => rfl
  | some upper => exact absorbs_merge (wellFormed upper rfl) base

/-- Laying the highest layer over the others again changes nothing, key order included, and neither
does laying a value over itself. -/
theorem merge_again :
    (∀ lower upper : Json, upper.WellFormed →
      merge (merge lower upper) upper = merge lower upper ∧ merge upper upper = upper) ∧
    (∀ (layers : List (Option Json)) (layer : Option Json), LayerWellFormed layer →
      mergeLayers (layers ++ [layer] ++ [layer]) = mergeLayers (layers ++ [layer])) ∧
    ∀ book : RuleBook, book.WellFormed →
      book.definitionRules wildcard =
        { definition := wildcard, document := mergeLayers [book.entries.get? wildcard] } := by
  refine ⟨fun lower upper wellFormed => ⟨absorbs_merge wellFormed lower, absorbs_self wellFormed⟩,
    fun layers layer wellFormed => ?_, fun book wellFormed => ?_⟩
  · rw [mergeLayers_concat, mergeLayers_concat, mergeLayer_again wellFormed]
  · have general : LayerWellFormed (book.entries.get? wildcard) := wellFormed wildcard
    have document_eq := book.definitionRules_document wildcard
    rw [mergeLayer_again general] at document_eq
    rw [mergeLayers_eq_foldl]
    exact congrArg (DefinitionRules.mk wildcard) document_eq

theorem orderRules_merged_again :
    orderRules.WellFormed ∧ LayerWellFormed (some orderRules) ∧ RuleBook.ordersBook.WellFormed ∧
      merge (merge generalRules orderRules) orderRules = merge generalRules orderRules ∧
      merge orderRules orderRules = orderRules ∧
      mergeLayers [some generalRules, some orderRules, some orderRules] =
        mergeLayers [some generalRules, some orderRules] ∧
      RuleBook.ordersBook.definitionRules "*" =
        { definition := "*", document := mergeLayers [RuleBook.ordersBook.entries.get? "*"] } := by
  have layer : LayerWellFormed (some orderRules) := by
    simp [LayerWellFormed, orderRules_wellFormed]
  obtain ⟨values, layers, books⟩ := merge_again
  obtain ⟨again, alone⟩ := values generalRules orderRules orderRules_wellFormed
  exact ⟨orderRules_wellFormed, layer, RuleBook.ordersBook_wellFormed, again, alone,
    layers [some generalRules] (some orderRules) layer, books _ RuleBook.ordersBook_wellFormed⟩

end Json
end SchemaForms
