import SchemaForms.Proofs.RuleBook
/-! The layers of rules that make up a merged document. Merging the rules of all definitions with
those of one, and only then the operations, is one merge of all layers in their precedence. -/
namespace SchemaForms

namespace Json

/-- The lowest layer is written out, so that a merge of layers is one step for each. -/
def mergeLayer (base : Json) : Option Json → Json
  | none => base
  | some layer => merge base layer

theorem mergeLayers_eq_foldl (layers : List (Option Json)) :
    mergeLayers layers = layers.foldl mergeLayer (.object []) := by
  unfold mergeLayers
  generalize Json.object [] = base
  induction layers generalizing base with
  | nil => rfl
  | cons layer rest ih =>
    cases layer with
    | none => exact ih base
    | some layer => exact ih (merge base layer)

/-- An absent layer is well formed. -/
def LayerWellFormed (layer : Option Json) : Prop := ∀ value, layer = some value → value.WellFormed

/-- The layer is absent or a mapping. -/
def LayerIsMapping (layer : Option Json) : Prop := ∀ value, layer = some value → value.isObject

/-- At no path does the lower layer hold a scalar or list and the upper one a mapping. -/
def LayersMeet (lower upper : Option Json) : Prop :=
  ∀ below above, lower = some below → upper = some above → MeetsMappings below above

theorem WellFormed.mergeLayer {base : Json} (wellFormed : base.WellFormed) {layer : Option Json}
    (layer_wellFormed : LayerWellFormed layer) : (base.mergeLayer layer).WellFormed := by
  cases layer with
  | none => exact wellFormed
  | some layer => exact wellFormed.merge (layer_wellFormed layer rfl)

theorem wellFormed_mergeLayers {layers : List (Option Json)}
    (each : ∀ layer ∈ layers, LayerWellFormed layer) : (mergeLayers layers).WellFormed := by
  rw [mergeLayers_eq_foldl]
  have start := wellFormed_empty
  generalize Json.object [] = base at start
  induction layers generalizing base with
  | nil => exact start
  | cons layer rest ih =>
    rw [List.forall_mem_cons] at each
    exact ih each.2 _ (start.mergeLayer each.1)

/-- Two layers that stand above one another may be merged first. -/
theorem mergeLayer_mergeMember {base : Json} {lower upper : Option Json}
    (wellFormed : base.WellFormed) (lower_wellFormed : LayerWellFormed lower)
    (upper_wellFormed : LayerWellFormed upper) (meets : LayersMeet lower upper) :
    mergeLayer base (mergeMember lower upper) = mergeLayer (mergeLayer base lower) upper := by
  cases lower with
  | none => rw [mergeMember_none_left]; rfl
  | some below =>
    cases upper with
    | none => rfl
    | some above =>
      exact (merge_assoc wellFormed (lower_wellFormed below rfl) (upper_wellFormed above rfl)
        (meets below above rfl rfl)).symm

/-- The overrides that an object places on itself. -/
def own? (rules : Json) : Option Json :=
  rules.members?.map fun members =>
    .object (members.filter (fun member => !isLayerKey member.1))

theorem isObject_of_own? {rules own : Json} (found : rules.own? = some own) : own.isObject := by
  unfold own? at found
  obtain ⟨members, _, rfl⟩ := Option.map_eq_some_iff.mp found
  rfl

theorem keys_of_own? {rules own : Json} (found : rules.own? = some own) :
    own.keys = rules.keys.filter (fun key => !isLayerKey key) := by
  unfold own? at found
  obtain ⟨members, object, rfl⟩ := Option.map_eq_some_iff.mp found
  rw [keys, keys, object]
  exact Entries.keys_filter_keys (fun key => !isLayerKey key) members

theorem get?_of_own? {rules own : Json} (found : rules.own? = some own) (key : String) :
    own.get? key = if isLayerKey key then none else rules.get? key := by
  unfold own? at found
  obtain ⟨members, object, rfl⟩ := Option.map_eq_some_iff.mp found
  have seen := Entries.get?_filter_keys (fun key => !isLayerKey key) members key
  rw [get?, get?, object]
  refine seen.trans ?_
  cases isLayerKey key <;> rfl

theorem exists_own? {rules : Json} (object : rules.isObject) : ∃ own, rules.own? = some own := by
  obtain ⟨members, rfl⟩ := isObject_iff.mp object
  exact ⟨_, rfl⟩

theorem WellFormed.own? {rules own : Json} (wellFormed : rules.WellFormed)
    (found : rules.own? = some own) : own.WellFormed := by
  refine wellFormed_of_members (isObject_of_own? found) ?_ ?_
  · rw [keys_of_own? found]
    exact wellFormed.nodup_keys.filter _
  · intro key member present
    rw [get?_of_own? found] at present
    cases layer : isLayerKey key with
    | true => rw [layer] at present; cases present
    | false =>
      rw [layer] at present
      exact wellFormed.of_get? present

/-- Picking the overrides out of merged rules is merging the overrides. -/
theorem own?_merge {lower upper own own' : Json} (lower_wellFormed : lower.WellFormed)
    (upper_wellFormed : upper.WellFormed) (object : upper.isObject)
    (found : lower.own? = some own) (found' : upper.own? = some own') :
    (merge lower upper).own? = some (merge own own') := by
  obtain ⟨merged, picked⟩ := exists_own? ((isObject_merge lower upper).trans object)
  have own_object := isObject_of_own? found'
  have own_nodup := (upper_wellFormed.own? found').nodup_keys
  have nodup := nodup_keys_merge lower_wellFormed.nodup_keys upper_wellFormed.nodup_keys
  rw [picked, Option.some.injEq]
  refine eq_of_get? (isObject_of_own? picked) ?_ ?_ ?_ ?_
  · rw [isObject_merge, own_object]
  · rw [keys_of_own? picked]
    exact nodup.filter _
  · rw [keys_of_own? picked, keys_merge object upper_wellFormed.nodup_keys,
      keys_merge own_object own_nodup, keys_of_own? found, keys_of_own? found',
      List.filter_append, List.filter_filter, List.filter_filter]
    congr 1
    apply List.filter_congr
    intro key _
    cases layer : isLayerKey key <;> simp [List.mem_filter, layer]
  · intro key
    rw [get?_of_own? picked, get?_merge object upper_wellFormed.nodup_keys,
      get?_merge own_object own_nodup, get?_of_own? found, get?_of_own? found']
    cases isLayerKey key <;> rfl

theorem LayerWellFormed.member {layer : Option Json} (wellFormed : LayerWellFormed layer)
    (key : String) : LayerWellFormed (layer.bind (get? · key)) := by
  intro value found
  obtain ⟨rules, present, inner⟩ := Option.bind_eq_some_iff.mp found
  exact (wellFormed rules present).of_get? inner

theorem LayerWellFormed.own {layer : Option Json} (wellFormed : LayerWellFormed layer) :
    LayerWellFormed (layer.bind own?) := by
  intro value found
  obtain ⟨rules, present, picked⟩ := Option.bind_eq_some_iff.mp found
  exact (wellFormed rules present).own? picked

theorem LayersMeet.member {lower upper : Option Json} (meets : LayersMeet lower upper)
    (key : String) : LayersMeet (lower.bind (get? · key)) (upper.bind (get? · key)) := by
  intro below above under on_top
  obtain ⟨lower', lower_eq, under⟩ := Option.bind_eq_some_iff.mp under
  obtain ⟨upper', upper_eq, on_top⟩ := Option.bind_eq_some_iff.mp on_top
  exact (meets lower' upper' lower_eq upper_eq).of_get? under on_top

/-- Absent rules hold nothing under any key. -/
theorem get?_mergeLayer {base : Json} {layer : Option Json} (layer_wellFormed : LayerWellFormed layer)
    (mapping : LayerIsMapping layer) (key : String) :
    (mergeLayer base layer).get? key = mergeMember (base.get? key) (layer.bind (get? · key)) := by
  cases layer with
  | none => exact (mergeMember_none_right _).symm
  | some upper =>
    exact get?_merge (mapping upper rfl) (layer_wellFormed upper rfl).nodup_keys base key

/-- The overrides of two entries are merged like the entries. -/
theorem mergeLayer_own? {lower upper : Option Json} (lower_wellFormed : LayerWellFormed lower)
    (upper_wellFormed : LayerWellFormed upper) (lower_mapping : LayerIsMapping lower)
    (upper_mapping : LayerIsMapping upper) :
    mergeLayer (.object []) (mergeLayer (mergeLayer (.object []) lower) upper).own? =
      mergeLayer (mergeLayer (.object []) (lower.bind own?)) (upper.bind own?) := by
  cases lower with
  | none =>
    cases upper with
    | none => rfl
    | some above =>
      have alone : mergeLayer (.object []) (some above) = above :=
        merge_empty_left (upper_wellFormed above rfl)
      rw [show mergeLayer (.object []) none = .object [] from rfl, alone]
      rfl
  | some below =>
    have alone : mergeLayer (.object []) (some below) = below :=
      merge_empty_left (lower_wellFormed below rfl)
    rw [alone]
    cases upper with
    | none => rfl
    | some above =>
      have wellFormed := lower_wellFormed below rfl
      have wellFormed' := upper_wellFormed above rfl
      obtain ⟨own, found⟩ := exists_own? (lower_mapping below rfl)
      obtain ⟨own', found'⟩ := exists_own? (upper_mapping above rfl)
      have picked := own?_merge wellFormed wellFormed' (upper_mapping above rfl) found found'
      have own_wellFormed := wellFormed.own? found
      have merged_wellFormed := own_wellFormed.merge (wellFormed'.own? found')
      simp only [mergeLayer, picked, Option.bind_some, found, found']
      rw [merge_empty_left own_wellFormed, merge_empty_left merged_wellFormed]

end Json

namespace RuleBook

/-- The layers of a definition and operation from lowest to highest precedence: what the rules for
every definition and then those for the one hold themselves, for every operation, and for the
operation. -/
def layers (book : RuleBook) (definition : String) (operation : Operation) : List (Option Json) :=
  let general := book.entries.get? wildcard
  let specific := book.entries.get? definition
  [general.bind Json.own?, specific.bind Json.own?,
   general.bind (Json.get? · wildcard), specific.bind (Json.get? · wildcard),
   general.bind (Json.get? · operation.name), specific.bind (Json.get? · operation.name)]

theorem definitionRules_document (book : RuleBook) (definition : String) :
    (book.definitionRules definition).document =
      ((Json.object []).mergeLayer (book.entries.get? wildcard)).mergeLayer
        (book.entries.get? definition) := by
  rw [definitionRules, Json.mergeLayers_eq_foldl]
  rfl

theorem get?_definitionRules {book : RuleBook} (wellFormed : book.WellFormed) {definition : String}
    (general_mapping : Json.LayerIsMapping (book.entries.get? wildcard))
    (specific_mapping : Json.LayerIsMapping (book.entries.get? definition)) (key : String) :
    (book.definitionRules definition).document.get? key =
      Json.mergeMember ((book.entries.get? wildcard).bind (Json.get? · key))
        ((book.entries.get? definition).bind (Json.get? · key)) := by
  rw [definitionRules_document, Json.get?_mergeLayer (wellFormed definition) specific_mapping,
    Json.get?_mergeLayer (wellFormed wildcard) general_mapping]
  exact congrArg (Json.mergeMember · _) (Json.mergeMember_none_left _)

/-- The document that the rules of a definition and operation are read from is one merge of all
layers, unless the rules for every definition hold a scalar or list where those of the definition
hold a mapping. -/
theorem resolve_eq_of_layers (book : RuleBook) (wellFormed : book.WellFormed) (definition : String)
    (operation : Operation) (general_mapping : Json.LayerIsMapping (book.entries.get? wildcard))
    (specific_mapping : Json.LayerIsMapping (book.entries.get? definition))
    (meets : Json.LayersMeet (book.entries.get? wildcard) (book.entries.get? definition)) :
    (book.definitionRules definition).merged operation =
        Json.mergeLayers (book.layers definition operation) ∧
      (book.definitionRules definition).resolve operation =
        (RuleSet.ofMerged (Json.mergeLayers (book.layers definition operation))).mapError
          fun fault => .invalidRules definition operation fault.1 fault.2 := by
  have general_wellFormed : Json.LayerWellFormed (book.entries.get? wildcard) :=
    wellFormed wildcard
  have specific_wellFormed : Json.LayerWellFormed (book.entries.get? definition) :=
    wellFormed definition
  have own_wellFormed := (Json.wellFormed_empty.mergeLayer general_wellFormed.own).mergeLayer
    specific_wellFormed.own
  have star_wellFormed :=
    (own_wellFormed.mergeLayer (general_wellFormed.member wildcard)).mergeLayer
      (specific_wellFormed.member wildcard)
  have merged_eq : (book.definitionRules definition).merged operation =
      Json.mergeLayers (book.layers definition operation) := by
    rw [DefinitionRules.merged, Json.mergeLayers_eq_foldl, Json.mergeLayers_eq_foldl]
    simp only [List.foldl_cons, List.foldl_nil, layers]
    rw [get?_definitionRules wellFormed general_mapping specific_mapping,
      get?_definitionRules wellFormed general_mapping specific_mapping,
      show (book.definitionRules definition).own? =
        (book.definitionRules definition).document.own? from rfl, definitionRules_document,
      Json.mergeLayer_own? general_wellFormed specific_wellFormed general_mapping
        specific_mapping,
      Json.mergeLayer_mergeMember own_wellFormed (general_wellFormed.member wildcard)
        (specific_wellFormed.member wildcard) (meets.member wildcard),
      Json.mergeLayer_mergeMember star_wellFormed (general_wellFormed.member operation.name)
        (specific_wellFormed.member operation.name) (meets.member operation.name)]
  refine ⟨merged_eq, ?_⟩
  rw [DefinitionRules.resolve, merged_eq]
  rfl

/-- Rules for every definition and for orders. Each has layers that the other lacks, and a null
stands over a mapping. -/
def ordersDocument : Json := .object
  [("*", .object
     [("fields", .object
        [("id", .object [("type", .string "hidden")]), ("total", .object [("skip", .bool true)])]),
      ("*", .object [("fields", .object [("id", .object [("skip", .bool true)])])])]),
   ("Order", .object
     [("update", .object [("fields", .object [("id", .object [("skip", .bool false)])])]),
      ("fields", .object
        [("total", .null), ("id", .object [("extra", .object [("rows", .null)])])])])]

def ordersBook : RuleBook :=
  { entries := (ordersDocument.members?.map OrderedMap.ofEntries).getD {} }

theorem ordersBook_wellFormed : ordersBook.WellFormed := by
  have document_wellFormed : ordersDocument.WellFormed := by
    simp [ordersDocument, Json.WellFormed, Json.WellFormedMembers]
  exact wellFormed_of_ofJson document_wellFormed rfl

theorem ordersBook_meets :
    Json.LayersMeet (ordersBook.entries.get? wildcard) (ordersBook.entries.get? "Order") := by
  intro general specific general_eq specific_eq
  obtain rfl := Option.some.inj general_eq
  obtain rfl := Option.some.inj specific_eq
  refine Json.meetsMappings_of_members rfl ?_
  rw [List.forall_mem_cons, List.forall_mem_singleton]
  refine ⟨nofun, ?_⟩
  intro fields fields_eq
  obtain rfl := Option.some.inj fields_eq
  refine Json.meetsMappings_of_members rfl ?_
  rw [List.forall_mem_cons, List.forall_mem_singleton]
  refine ⟨fun _ _ => Json.meetsMappings_of_not_isObject rfl _, ?_⟩
  intro id id_eq
  obtain rfl := Option.some.inj id_eq
  refine Json.meetsMappings_of_members rfl ?_
  rw [List.forall_mem_singleton]
  exact nofun

theorem resolve_ordersBook :
    ordersBook.WellFormed ∧
      (ordersBook.definitionRules "Order").merged .update =
        Json.mergeLayers (ordersBook.layers "Order" .update) ∧
      (ordersBook.definitionRules "Order").merged .update =
        .object [("fields", .object
          [("id", .object
              [("type", .string "hidden"), ("extra", .object [("rows", .null)]),
               ("skip", .bool false)]),
           ("total", .null)])] := by
  have result := resolve_eq_of_layers ordersBook ordersBook_wellFormed "Order" .update
    (fun _ found => by obtain rfl := Option.some.inj found; rfl)
    (fun _ found => by obtain rfl := Option.some.inj found; rfl) ordersBook_meets
  exact ⟨ordersBook_wellFormed, result.1, by decide⟩

end RuleBook

end SchemaForms
