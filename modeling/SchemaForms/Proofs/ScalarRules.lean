import SchemaForms.Proofs.RuleLocality
/-! Rules that are no mapping. Laid over the layers below it such an entry hides them all, and only
what stands above it is read. It has no effect exactly when the hidden layers add nothing to
that. -/
namespace SchemaForms

namespace Json

theorem mergeLayer_of_not_isObject {value : Json} (scalar : value.isObject = false) (base : Json) :
    mergeLayer base (some value) = value := merge_of_not_isObject scalar base

theorem mergeMember_of_not_isObject {value : Json} (scalar : value.isObject = false)
    (lower : Option Json) : mergeMember lower (some value) = some value := by
  cases lower with
  | none => rfl
  | some below => exact congrArg some (merge_of_not_isObject scalar below)

/-- Nothing of a scalar or list is left under another layer. -/
theorem merge_over_not_isObject {value : Json} (scalar : value.isObject = false) (upper : Json) :
    merge value upper = upper := by
  cases upper with
  | object overlay =>
    cases value with
    | object members => cases scalar
    | _ => rfl
  | _ => rfl

theorem own?_of_not_isObject {value : Json} (scalar : value.isObject = false) :
    value.own? = none := by
  cases value with
  | object members => cases scalar
  | _ => rfl

end Json

theorem RuleSet.ofMerged_of_not_isObject {value : Json} (scalar : value.isObject = false) :
    ofMerged value = .ok {} := by
  rw [ofMerged, Json.get?_of_not_isObject scalar]

/-- The places of a rule book that hold rules of one definition. -/
inductive RulePlace where
  | definition
  | everyOperation
  | oneOperation
deriving DecidableEq

namespace RulePlace

def entry? (place : RulePlace) (book : RuleBook) (definition : String) (operation : Operation) :
    Option Json :=
  let rules := book.entries.get? definition
  match place with
  | .definition => rules
  | .everyOperation => rules.bind (Json.get? · wildcard)
  | .oneOperation => rules.bind (Json.get? · operation.name)

/-- The book without the entry at the place. -/
def clear (place : RulePlace) (book : RuleBook) (definition : String) (operation : Operation) :
    RuleBook :=
  { book with
    entries :=
      match place with
      | .definition => book.entries.erase definition
      | .everyOperation => book.entries.modify definition (Json.without wildcard)
      | .oneOperation => book.entries.modify definition (Json.without operation.name) }

/-- The rules read from what stands above the place alone: those for the one operation stand above
those for every operation, and nothing above the others. -/
def readAbove (place : RulePlace) (rules : DefinitionRules) (operation : Operation) :
    Except FormError RuleSet :=
  let above : Json :=
    match place with
    | .everyOperation => (rules.document.get? operation.name).getD (.object [])
    | .definition | .oneOperation => .object []
  (RuleSet.ofMerged above).mapError fun (field, cause) =>
    .invalidRules rules.definition operation field cause

end RulePlace

namespace RuleBook

section
variable {book : RuleBook} {definition key : String} {value : Json}

theorem document_of_scalar (held : book.entries.get? definition = some value)
    (scalar : value.isObject = false) : (book.definitionRules definition).document = value := by
  rw [definitionRules_document, held, Json.mergeLayer_of_not_isObject scalar]

/-- A scalar or list among the rules of a definition is found in the merged document. -/
theorem get?_document_of_scalar (wellFormed : book.WellFormed)
    (held : (book.entries.get? definition).bind (Json.get? · key) = some value)
    (scalar : value.isObject = false) :
    (book.definitionRules definition).document.get? key = some value := by
  obtain ⟨rules, specific, inner⟩ := Option.bind_eq_some_iff.mp held
  have rules_wellFormed : rules.WellFormed := wellFormed definition rules specific
  rw [definitionRules_document, specific, Json.mergeLayer,
    Json.get?_merge (Json.isObject_of_get? inner) rules_wellFormed.nodup_keys, inner,
    Json.mergeMember_of_not_isObject scalar]

/-- What the rules of a definition hold under a key reaches no other key. -/
theorem get?_document_modify {other : String} (differs : key ≠ other) :
    ({ book with entries := book.entries.modify definition (Json.without key) }.definitionRules
        definition).document.get? other =
      (book.definitionRules definition).document.get? other := by
  have same : ∀ name ∈ [wildcard, definition],
      ((book.entries.modify definition (Json.without key)).get? name).map (Json.without key) =
        (book.entries.get? name).map (Json.without key) := by
    intro name _
    rw [OrderedMap.get?_modify]
    split
    · simp [Function.comp_def, Json.without_without]
    · rfl
  rw [← Json.get?_without differs, definitionRules_without same, Json.get?_without differs]

end

end RuleBook

namespace DefinitionRules

theorem resolve_of_scalar_document {rules : DefinitionRules}
    (scalar : rules.document.isObject = false) (operation : Operation) :
    rules.resolve operation = .ok {} := by
  have merged_eq : rules.merged operation = .object [] := by
    rw [merged, own?, ← Json.own?, Json.own?_of_not_isObject scalar,
      Json.get?_of_not_isObject scalar, Json.get?_of_not_isObject scalar]
    rfl
  rw [resolve, merged_eq]
  rfl

theorem resolve_of_scalar_operation {rules : DefinitionRules} {operation : Operation}
    {value : Json} (held : rules.document.get? operation.name = some value)
    (scalar : value.isObject = false) : rules.resolve operation = .ok {} := by
  have merged_eq : rules.merged operation = value := by
    rw [merged, held, Json.mergeLayers_eq_foldl]
    exact Json.mergeLayer_of_not_isObject scalar _
  rw [resolve, merged_eq, RuleSet.ofMerged_of_not_isObject scalar]
  rfl

/-- A scalar for every operation leaves the rules for the one operation. -/
theorem ofMerged_of_scalar_wildcard {rules : DefinitionRules} {operation : Operation}
    {value : Json} (held : rules.document.get? wildcard = some value)
    (scalar : value.isObject = false) :
    RuleSet.ofMerged (rules.merged operation) =
      RuleSet.ofMerged ((rules.document.get? operation.name).getD (.object [])) := by
  rw [merged, held, Json.mergeLayers_eq_foldl]
  simp only [List.foldl_cons, List.foldl_nil, Json.mergeLayer_of_not_isObject scalar]
  cases rules.document.get? operation.name with
  | none => exact RuleSet.ofMerged_of_not_isObject scalar
  | some upper => exact congrArg RuleSet.ofMerged (Json.merge_over_not_isObject scalar upper)

end DefinitionRules

namespace RulePlace
variable {book : RuleBook} {definition : String} {operation : Operation} {value : Json}
  {place : RulePlace}

theorem isSkipped_of_scalar (present : place.entry? book definition operation = some value)
    (scalar : value.isObject = false) :
    (book.definitionRules definition).isSkipped =
      (place ≠ .definition &&
        ((place.clear book definition operation).definitionRules definition).isSkipped) := by
  unfold DefinitionRules.isSkipped
  cases place with
  | definition =>
    rw [RuleBook.document_of_scalar present scalar, Json.get?_of_not_isObject scalar]
    rfl
  | everyOperation =>
    have differs : wildcard ≠ "skip" := by decide
    rw [clear, RuleBook.get?_document_modify differs]
    simp
  | oneOperation =>
    have differs : operation.name ≠ "skip" := by cases operation <;> decide
    rw [clear, RuleBook.get?_document_modify differs]
    simp

/-- The rules read with a scalar at the place are those read from above it, with or without it. -/
theorem resolve_of_scalar (wellFormed : book.WellFormed)
    (present : place.entry? book definition operation = some value)
    (scalar : value.isObject = false) :
    (book.definitionRules definition).resolve operation =
      place.readAbove ((place.clear book definition operation).definitionRules definition)
        operation := by
  cases place with
  | definition =>
    apply DefinitionRules.resolve_of_scalar_document
    rwa [RuleBook.document_of_scalar present scalar]
  | everyOperation =>
    have held := RuleBook.get?_document_of_scalar wellFormed present scalar
    have differs : wildcard ≠ operation.name := by cases operation <;> decide
    rw [DefinitionRules.resolve, DefinitionRules.ofMerged_of_scalar_wildcard held scalar,
      readAbove, clear, RuleBook.get?_document_modify differs]
    rfl
  | oneOperation =>
    have held := RuleBook.get?_document_of_scalar wellFormed present scalar
    exact DefinitionRules.resolve_of_scalar_operation held scalar

end RulePlace

/-- An entry that is no mapping hides the rules below it: those for a definition no longer skip it,
and only the rules above the entry are read. To delete it changes nothing exactly when the hidden
rules do not skip the definition and add nothing to the rules above. -/
theorem RuleBook.scalar_hides_lower_rules {book : RuleBook} (wellFormed : book.WellFormed)
    {place : RulePlace} {definition : String} {operation : Operation} {value : Json}
    (present : place.entry? book definition operation = some value)
    (scalar : value.isObject = false) :
    let held := book.definitionRules definition
    let cleared := (place.clear book definition operation).definitionRules definition
    held.isSkipped = (place ≠ .definition && cleared.isSkipped) ∧
    held.resolve operation = place.readAbove cleared operation ∧
    (held.isSkipped = cleared.isSkipped ∧ held.resolve operation = cleared.resolve operation ↔
      (place = .definition → cleared.isSkipped = false) ∧
        cleared.resolve operation = place.readAbove cleared operation) := by
  intro held cleared
  have skipped : held.isSkipped = (place ≠ .definition && cleared.isSkipped) :=
    RulePlace.isSkipped_of_scalar present scalar
  have resolved : held.resolve operation = place.readAbove cleared operation :=
    RulePlace.resolve_of_scalar wellFormed present scalar
  refine ⟨skipped, resolved, ?_⟩
  rw [skipped, resolved]
  refine and_congr ?_ eq_comm
  by_cases whole : place = .definition
  · cases cleared.isSkipped <;> simp [whole]
  · simp [whole]

/-- Ids are not shown. Orders have an empty entry, and items a number for every operation. -/
def itemsDocument : Json :=
  let hidden (name : String) : Json :=
    .object [(name, .object [("type", .string "hidden")])]
  .object
    [("*", .object [("fields", hidden "id")]), ("Order", .null),
     ("Item", .object
       [("*", .number (.int 5)), ("create", .object [("fields", hidden "number")])])]

def itemsBook : RuleBook :=
  { entries := (itemsDocument.members?.map OrderedMap.ofEntries).getD {} }

theorem itemsBook_wellFormed : itemsBook.WellFormed := by
  have document_wellFormed : itemsDocument.WellFormed := by
    simp [itemsDocument, Json.WellFormed, Json.WellFormedMembers]
  exact RuleBook.wellFormed_of_ofJson document_wellFormed rfl

/-- The number hides the rule for ids, but not the one for the numbers of items. -/
theorem itemsBook_hides_id :
    itemsBook.WellFormed ∧
      RulePlace.entry? .everyOperation itemsBook "Item" .create = some (.number (.int 5)) ∧
      (itemsBook.definitionRules "Item").isSkipped = false ∧
      ((itemsBook.definitionRules "Item").resolve .create).map (·.fields.keys) = .ok ["number"] ∧
      ((RulePlace.clear .everyOperation itemsBook "Item" .create).definitionRules "Item").resolve
          .create ≠
        (itemsBook.definitionRules "Item").resolve .create := by
  have present : RulePlace.entry? .everyOperation itemsBook "Item" .create =
      some (.number (.int 5)) := rfl
  have hidden := RuleBook.scalar_hides_lower_rules itemsBook_wellFormed present rfl
  refine ⟨itemsBook_wellFormed, present, ?_, ?_, ?_⟩
  · rw [hidden.1]
    decide +kernel
  · rw [hidden.2.1]
    decide +kernel
  · rw [hidden.2.1]
    decide +kernel

/-- To delete the empty entry of orders changes their rules: an entry that is no mapping is not
passed over. -/
theorem itemsBook_null_not_ignored :
    ¬ ∀ (book : RuleBook) (place : RulePlace) (definition : String) (operation : Operation)
        (value : Json), book.WellFormed →
        place.entry? book definition operation = some value → value.isObject = false →
        ((place.clear book definition operation).definitionRules definition).isSkipped =
            (book.definitionRules definition).isSkipped ∧
          ((place.clear book definition operation).definitionRules definition).resolve operation =
            (book.definitionRules definition).resolve operation := by
  intro ignored
  have same := (ignored itemsBook .definition "Order" .create .null itemsBook_wellFormed rfl rfl).2
  have differ : ((RulePlace.clear .definition itemsBook "Order" .create).definitionRules
      "Order").resolve .create ≠ (itemsBook.definitionRules "Order").resolve .create := by
    decide +kernel
  exact differ same

end SchemaForms
