import SchemaForms.Proofs.RuleLayers
/-! Which part of a rule book can reach a form. Only the rules for every definition and those for
the one are merged, and what they hold for the other operation never leaves the merged document. -/
namespace SchemaForms

namespace Entries
variable {α : Type}

/-- Whatever is done under an erased name is erased with it. -/
theorem erase_upsert (name key : String) (f : Option α → α) (entries : Entries α) :
    erase (upsert name f entries) key =
      if name = key then erase entries key else upsert name f (erase entries key) := by
  induction entries with
  | nil =>
    rw [upsert, erase_cons]
    by_cases same : name = key <;> simp [same, erase, upsert]
  | cons entry rest ih =>
    obtain ⟨first, value⟩ := entry
    by_cases here : first = name
    · subst here
      rw [upsert, if_pos rfl, erase_cons, erase_cons]
      by_cases same : first = key
      · simp only [same, if_true]
      · simp only [same, if_false, upsert, if_true]
    · rw [upsert, if_neg here, erase_cons, ih, erase_cons]
      by_cases same : name = key
      · simp only [same, if_true]
      · by_cases at_first : first = key
        · simp only [same, at_first, if_true, if_false]
        · simp only [same, at_first, if_false, upsert, here]

end Entries

namespace Json

/-- An object without its members of that name. Other values stay. -/
def without (key : String) : Json → Json
  | .object members => .object (Entries.erase members key)
  | value => value

theorem erase_mergeMembers (key : String) (base overlay : Entries Json) :
    Entries.erase (mergeMembers base overlay) key =
      mergeMembers (Entries.erase base key) (Entries.erase overlay key) := by
  induction overlay generalizing base with
  | nil => rfl
  | cons member rest ih =>
    obtain ⟨name, value⟩ := member
    rw [mergeMembers, ih, Entries.erase_upsert, Entries.erase_cons]
    -- What a member of the erased name merges into is erased as well.
    by_cases same : name = key
    · rw [if_pos same, if_pos same]
    · rw [if_neg same, if_neg same, mergeMembers]

theorem without_merge (key : String) (lower upper : Json) :
    (merge lower upper).without key = merge (lower.without key) (upper.without key) := by
  cases upper with
  | object overlay =>
    cases lower with
    | object base => exact congrArg Json.object (erase_mergeMembers key base overlay)
    | _ => rfl
  | _ => cases lower <;> rfl

theorem without_mergeLayer (key : String) (base : Json) (layer : Option Json) :
    (mergeLayer base layer).without key =
      mergeLayer (base.without key) (layer.map (without key)) := by
  cases layer with
  | none => rfl
  | some upper => exact without_merge key base upper

theorem get?_without {key name : String} (differs : key ≠ name) (value : Json) :
    (value.without key).get? name = value.get? name := by
  cases value with
  | object members =>
    have seen := Entries.get?_erase members key name
    rw [if_neg differs] at seen
    exact seen
  | _ => rfl

theorem without_without (key : String) (value : Json) :
    (value.without key).without key = value.without key := by
  cases value with
  | object members => simp [without, Entries.erase, List.filter_filter]
  | _ => rfl

theorem own?_without {key : String} (layer : isLayerKey key = true) (value : Json) :
    (value.without key).own? = value.own? := by
  cases value with
  | object members =>
    refine congrArg (some ∘ Json.object) ?_
    rw [Entries.erase, List.filter_filter]
    apply List.filter_congr
    intro member _
    by_cases same : member.1 = key
    · simp [same, layer]
    · simp [same]
  | _ => rfl

end Json

namespace Operation

def other : Operation → Operation
  | .update => .create
  | .create => .update

theorem other_name_ne (operation : Operation) : operation.other.name ≠ operation.name := by
  cases operation <;> decide

theorem isLayerKey_name (operation : Operation) : isLayerKey operation.name = true := by
  cases operation <;> decide

theorem other_name_ne_skip (operation : Operation) : operation.other.name ≠ "skip" := by
  cases operation <;> decide

theorem other_name_ne_wildcard (operation : Operation) : operation.other.name ≠ wildcard := by
  cases operation <;> decide

end Operation

namespace DefinitionRules

/-- Rules of one definition that differ only in what they hold for the other operation. -/
def SameFor (operation : Operation) (first second : DefinitionRules) : Prop :=
  first.definition = second.definition ∧
    first.document.without operation.other.name = second.document.without operation.other.name

theorem SameFor.get? {operation : Operation} {first second : DefinitionRules}
    (same : SameFor operation first second) {key : String}
    (differs : operation.other.name ≠ key) :
    first.document.get? key = second.document.get? key := by
  rw [← Json.get?_without differs, same.2, Json.get?_without differs]

theorem SameFor.isSkipped_eq {operation : Operation} {first second : DefinitionRules}
    (same : SameFor operation first second) : first.isSkipped = second.isSkipped := by
  rw [isSkipped, isSkipped, same.get? operation.other_name_ne_skip]

theorem SameFor.resolve_eq {operation : Operation} {first second : DefinitionRules}
    (same : SameFor operation first second) :
    first.resolve operation = second.resolve operation := by
  have own_eq : first.document.own? = second.document.own? := by
    rw [← Json.own?_without operation.other.isLayerKey_name, same.2,
      Json.own?_without operation.other.isLayerKey_name]
  have merged_eq : first.merged operation = second.merged operation := by
    rw [merged, merged, same.get? operation.other_name_ne_wildcard,
      same.get? operation.other_name_ne]
    exact congrArg (fun own => Json.mergeLayers [own, _, _]) own_eq
  rw [resolve, resolve, merged_eq, same.1]

end DefinitionRules

namespace RuleBook

/-- The rules for every definition and those for the one are the same, but for what they hold for
the other operation. -/
def SameFor (definition : String) (operation : Operation) (first second : RuleBook) : Prop :=
  ∀ key ∈ [wildcard, definition],
    (first.entries.get? key).map (Json.without operation.other.name) =
      (second.entries.get? key).map (Json.without operation.other.name)

/-- A key that is left out below and above is left out of the merged document. -/
theorem definitionRules_without {definition key : String} {first second : RuleBook}
    (same : ∀ name ∈ [wildcard, definition],
      (first.entries.get? name).map (Json.without key) =
        (second.entries.get? name).map (Json.without key)) :
    (first.definitionRules definition).document.without key =
      (second.definitionRules definition).document.without key := by
  rw [definitionRules_document, definitionRules_document, Json.without_mergeLayer,
    Json.without_mergeLayer, Json.without_mergeLayer, Json.without_mergeLayer,
    same wildcard List.mem_cons_self, same definition (List.mem_cons_of_mem _ List.mem_cons_self)]

theorem SameFor.definitionRules {definition : String} {operation : Operation}
    {first second : RuleBook} (same : SameFor definition operation first second) :
    DefinitionRules.SameFor operation (first.definitionRules definition)
      (second.definitionRules definition) :=
  ⟨rfl, definitionRules_without same⟩

end RuleBook
end SchemaForms
