import Mathlib.Data.List.Forall2
import SchemaForms.Proofs.ShownProperties
/-! The columns of a table are sorted by keys that come from free attributes, from rules or from the
default. Sorting loses and repeats none of them, and those with equal keys stay in the order in which
they are declared. -/
namespace SchemaForms

/-- The positions in the total order are distinct. -/
theorem Binary64.rank_injective {x y : Binary64} (same : x.rank = y.rank) : x = y := by
  have x_bound := x.bits.toNat_lt
  have y_bound := y.bits.toNat_lt
  have signBit : Nat.pow 2 63 = 9223372036854775808 := rfl
  have bits : x.bits.toNat = y.bits.toNat := by
    simp only [rank, isNegative, magnitude, signBit, decide_eq_true_eq] at same
    split at same <;> split at same <;> omega
  cases x
  cases y
  exact congrArg Binary64.mk (UInt64.toNat_inj.mp bits)

/-- Where each kept item makes a result, these correspond to the kept items in order. -/
theorem forall₂_filterMap {α β : Type} {related : α → β → Prop} {keep : α → Bool}
    {make : α → Option β} {items : List α}
    (made : ∀ item ∈ items, keep item = true → ∃ result, make item = some result ∧
      related item result)
    (dropped : ∀ item ∈ items, keep item = false → make item = none) :
    List.Forall₂ related (items.filter keep) (items.filterMap make) := by
  induction items with
  | nil => exact .nil
  | cons item rest ih =>
    rw [List.forall_mem_cons] at made dropped
    cases kept : keep item with
    | false =>
      rw [List.filter_cons_of_neg (by simp [kept]), List.filterMap_cons_none (dropped.1 kept)]
      exact ih made.2 dropped.2
    | true =>
      obtain ⟨result, makes, here⟩ := made.1 kept
      rw [List.filter_cons_of_pos kept, List.filterMap_cons_some makes]
      exact .cons here (ih made.2 dropped.2)

namespace Column

/-- The number that attributes give as their order, else the order of the rule, else 100. -/
def sortKey (attributes : OrderedMap Json) (ruleOrder : Option Binary64) : Binary64 :=
  match attributes.get? "order" with
  | some (.number order) => order.toBinary64
  | _ => ruleOrder.getD (.ofInt 100)

theorem order_eq_sortKey (attributes : OrderedMap Json) (ruleOrder : Option Binary64) :
    ((literalOrder? attributes) <|> ruleOrder).getD defaultOrder =
      sortKey attributes ruleOrder := by
  unfold literalOrder? sortKey
  cases attributes.get? "order" with
  | none => rfl
  | some value => cases value <;> rfl

/-- The column of a referenced property under its rule. -/
structure IsDerived (tableKey : LocaleKey) (rules : OrderedMap ColumnRule)
    (entry : String × Property) (column : Column) : Prop where
  title : column.title = tableKey.child entry.1
  name : column.name = entry.1
  type : column.type = (((rules.get? entry.1).getD {}).type <|> entry.2.columnType?)
  order : column.order =
    sortKey ((rules.get? entry.1).getD {}).extra ((rules.get? entry.1).getD {}).order

/-- The column that a rule gives by its attributes. -/
structure IsExtra (tableKey : LocaleKey) (entry : String × OrderedMap Json) (column : Column) :
    Prop where
  title : column.title = tableKey.child entry.1
  name : column.name = entry.1
  attributes : column.extra = entry.2.erase "order"
  order : column.order = sortKey entry.2 none

/-- The same columns, ascending in their keys. Those of one key stand in their former order. -/
structure StableSort (declared sorted : List Column) : Prop where
  perm : sorted.Perm declared
  ascending : sorted.Pairwise fun left right =>
    left.order.rank < right.order.rank ∨ left.order = right.order
  stable : ∀ key, (sorted.filter fun column => column.order = key) =
    declared.filter fun column => column.order = key

theorem ascends_trans (first second third : Column)
    (below : decide (first.order.rank ≤ second.order.rank) = true)
    (above : decide (second.order.rank ≤ third.order.rank) = true) :
    decide (first.order.rank ≤ third.order.rank) = true :=
  decide_eq_true (Int.le_trans (of_decide_eq_true below) (of_decide_eq_true above))

theorem ascends_total (left right : Column) :
    (decide (left.order.rank ≤ right.order.rank) ||
      decide (right.order.rank ≤ left.order.rank)) = true := by
  simpa using Int.le_total left.order.rank right.order.rank

theorem sort_perm (declared : List Column) : (sort declared).Perm declared :=
  List.mergeSort_perm _ _

theorem sort_ascending (declared : List Column) :
    (sort declared).Pairwise fun left right =>
      left.order.rank < right.order.rank ∨ left.order = right.order := by
  refine (List.pairwise_mergeSort ascends_trans ascends_total declared).imp ?_
  intro left right ordered
  rcases Int.lt_or_eq_of_le (of_decide_eq_true ordered) with below | level
  · exact .inl below
  · exact .inr (Binary64.rank_injective level)

/-- The columns of one key ascend as they are declared, so that sorting keeps them as a sublist. -/
theorem sort_stable (declared : List Column) (key : Binary64) :
    ((sort declared).filter fun column => column.order = key) =
      declared.filter fun column => column.order = key := by
  have level : (declared.filter fun column => column.order = key).Pairwise fun left right =>
      decide (left.order.rank ≤ right.order.rank) = true := by
    apply List.pairwise_of_forall_mem_list
    intro left left_mem right right_mem
    have left_key := of_decide_eq_true (List.mem_filter.mp left_mem).2
    have right_key := of_decide_eq_true (List.mem_filter.mp right_mem).2
    exact decide_eq_true (Int.le_of_eq (by rw [left_key, right_key]))
  have kept := (List.sublist_mergeSort ascends_trans ascends_total level List.filter_sublist).filter
    fun column => decide (column.order = key)
  rw [List.filter_filter] at kept
  simp only [Bool.and_self] at kept
  exact (kept.eq_of_length ((sort_perm declared).filter _).length_eq.symm).symm

theorem stableSort_sort (declared : List Column) : StableSort declared (sort declared) :=
  ⟨sort_perm declared, sort_ascending declared, sort_stable declared⟩

theorem map_sort (columns : List Column) :
    (sort columns).map (fun column => (column.name, column.order.rank)) =
      (columns.map fun column => (column.name, column.order.rank)).mergeSort
        fun left right => left.2 ≤ right.2 :=
  List.map_mergeSort fun _ _ _ _ => rfl

theorem names_sort (declared : List (Labelled Column)) :
    (sort (declared.map Labelled.value)).map name =
      ((declared.map fun column => (column.value.name, column.value.order.rank)).mergeSort
        fun left right => left.2 ≤ right.2).map Prod.fst := by
  have sorted := congrArg (List.map Prod.fst) (map_sort (declared.map Labelled.value))
  rw [List.map_map, List.map_map] at sorted
  exact sorted

theorem isDerived_of_shown {rules : RuleSet} {entry column : String × Property}
    (shown : rules.showsColumn entry column = true) (tableKey : LocaleKey) :
    ∃ made, ofProperty? tableKey ((rules.field? entry.1).getD {}).columns column = some made ∧
      IsDerived tableKey ((rules.field? entry.1).getD {}).columns column made.value := by
  obtain ⟨name, property⟩ := column
  obtain ⟨typed, not_skipped⟩ := Bool.and_eq_true_iff.mp shown
  obtain ⟨type, has_type⟩ := Option.isSome_iff_exists.mp typed
  rw [Bool.not_eq_true'] at not_skipped
  dsimp only at not_skipped has_type
  unfold ofProperty?
  simp only [has_type, not_skipped]
  refine ⟨_, rfl, rfl, rfl, ?_, order_eq_sortKey _ _⟩
  dsimp only
  rw [has_type]
  cases ((((rules.field? entry.1).getD {}).columns.get? name).getD {}).type <;> rfl

theorem isExtra_ofAttributes (tableKey : LocaleKey) (entry : String × OrderedMap Json) :
    IsExtra tableKey entry (ofAttributes tableKey entry).value := by
  refine ⟨rfl, rfl, rfl, ?_⟩
  rw [← order_eq_sortKey]
  cases found : literalOrder? entry.2 <;> simp [ofAttributes, found]

/-- Before sorting, the columns of referenced properties stand before those of the rule. -/
theorem value_build (tableKey : LocaleKey) (rules : RuleSet) (entry : String × Property)
    (referenced : Properties) :
    ∃ derived extra,
      List.Forall₂ (IsDerived tableKey ((rules.field? entry.1).getD {}).columns)
        (referenced.entries.filter (rules.showsColumn entry)) derived ∧
      List.Forall₂ (IsExtra tableKey) ((rules.field? entry.1).getD {}).extraColumns.entries
        extra ∧
      (build tableKey ((rules.field? entry.1).getD {}) referenced).value =
        sort (derived ++ extra) := by
  refine ⟨(referenced.entries.filterMap
      (ofProperty? tableKey ((rules.field? entry.1).getD {}).columns)).map Labelled.value,
    (((rules.field? entry.1).getD {}).extraColumns.entries.map
      (ofAttributes tableKey)).map Labelled.value, ?_, ?_, ?_⟩
  · rw [List.forall₂_map_right_iff]
    refine forall₂_filterMap (fun column _ shown => isDerived_of_shown shown tableKey) ?_
    intro column _ hidden
    exact ofProperty?_of_hidden hidden tableKey
  · rw [List.forall₂_map_right_iff, List.forall₂_map_right_iff, List.forall₂_same]
    exact fun attributes _ => isExtra_ofAttributes tableKey attributes
  · rw [build, declared, List.map_append]

end Column

namespace Field

theorem columnsOf_of_resolves {scope : FormScope} {property : Property} {reference : String}
    {referenced : Properties} (refers : property.itemsReference = some reference)
    (resolves : scope.schema.resolve? reference = some referenced) (name : String)
    (rule : FieldRule) :
    columnsOf scope name property rule =
      .ok (Column.build (scope.root.child (fieldName name)) rule referenced) := by
  unfold columnsOf Schema.follow
  simp only [refers, resolves]
  rfl

/-- The columns of a table are those of the shown properties it refers to and then the extra columns
of its rule, stably sorted. A field that is a table has these columns. -/
theorem columnsOf_stableSort {scope : FormScope} {rules : RuleSet} {entry : String × Property}
    {reference : String} {referenced : Properties}
    (refers : entry.2.itemsReference = some reference)
    (resolves : scope.schema.resolve? reference = some referenced) :
    let rule := (rules.field? entry.1).getD {}
    let tableKey := scope.root.child (fieldName entry.1)
    ∃ columns derived extra,
      columnsOf scope entry.1 entry.2 rule = .ok columns ∧
      List.Forall₂ (Column.IsDerived tableKey rule.columns)
        (referenced.entries.filter (rules.showsColumn entry)) derived ∧
      List.Forall₂ (Column.IsExtra tableKey) rule.extraColumns.entries extra ∧
      Column.StableSort (derived ++ extra) columns.value ∧
      (rules.fieldType? entry = some .table → ∃ field,
        build scope rules entry = .ok (some field) ∧ field.value.columns = some columns.value) := by
  intro rule tableKey
  obtain ⟨derived, extra, is_derived, is_extra, value_eq⟩ :=
    Column.value_build tableKey rules entry referenced
  have made := columnsOf_of_resolves refers resolves entry.1 ((rules.field? entry.1).getD {})
  refine ⟨_, derived, extra, made, is_derived, is_extra, ?_, ?_⟩
  · rw [value_eq]
    exact Column.stableSort_sort _
  · intro is_table
    have type := heading_type scope entry.1 entry.2 .table
    rw [build_of_typed is_table]
    unfold withContent
    simp only [type, made]
    exact ⟨_, rfl, rfl⟩

/-- Properties of lines. All but the last can be shown in a column. -/
def lineProperties : Properties := ⟨
  [("code", { type := some .string }),
   ("amount", { type := some .number, format := some .double }),
   ("unit", { type := some .string }),
   ("count", { type := some .integer, format := some .int32 }),
   ("done", { type := some .boolean })], by decide⟩

def linesScope : FormScope where
  schema := { definitions := ⟨[("Line", { properties := lineProperties })], by decide⟩ }
  name := "Order"
  definition := {}
  root := LocaleKey.root "Order" .create

def linesEntry : String × Property :=
  ("lines", { type := some .array, items := some { reference := some "#/definitions/Line" } })

/-- Orders are given by free attributes, by the rule of a column and by neither. One of the free
attributes is no number. -/
def linesRule : FieldRule where
  columns := ⟨
    [("code", { order := some (.ofInt 1), extra := ⟨[("order", .number (.int 200))], by decide⟩ }),
     ("amount", { order := some (.ofInt 50), extra := ⟨[("order", .string "last")], by decide⟩ }),
     ("unit", { skip := true })], by decide⟩
  extraColumns := ⟨
    [("total", {}), ("share", ⟨[("order", .number (.int 50))], by decide⟩)], by decide⟩

def linesRules : RuleSet := { fields := ⟨[("lines", linesRule)], by decide⟩ }

/-- The columns of the lines before sorting. -/
def linesDeclared : List Column :=
  (Column.declared (linesScope.root.child (fieldName "lines")) linesRule lineProperties).map
    Labelled.value

theorem columnsOf_lines :
    linesEntry.2.itemsReference = some "#/definitions/Line" ∧
      linesScope.schema.resolve? "#/definitions/Line" = some lineProperties ∧
      linesRules.fieldType? linesEntry = some .table ∧
      ∃ columns, columnsOf linesScope "lines" linesEntry.2 linesRule = .ok columns ∧
        columns.value.map Column.name = ["amount", "share", "count", "total", "code"] ∧
        ∃ field, build linesScope linesRules linesEntry = .ok (some field) ∧
          field.value.columns = some columns.value := by
  have refers : linesEntry.2.itemsReference = some "#/definitions/Line" := rfl
  have resolves : linesScope.schema.resolve? "#/definitions/Line" = some lineProperties := rfl
  have is_table : linesRules.fieldType? linesEntry = some .table := by decide
  refine ⟨refers, resolves, is_table, ?_⟩
  have ruled : (linesRules.field? linesEntry.1).getD {} = linesRule := by decide
  obtain ⟨columns, derived, extra, made, _, _, _, built⟩ :=
    @columnsOf_stableSort linesScope linesRules linesEntry "#/definitions/Line" lineProperties
      refers resolves
  rw [ruled] at made
  refine ⟨columns, made, ?_, built is_table⟩
  have value_eq : columns.value = Column.sort linesDeclared := by
    rw [← Except.ok.inj ((columnsOf_of_resolves refers resolves "lines" linesRule).symm.trans made)]
    rfl
  have keys : linesDeclared.map (fun column => (column.name, column.order.rank)) =
      [("code", 0x4069000000000000), ("amount", 0x4049000000000000),
       ("count", 0x4059000000000000), ("total", 0x4059000000000000),
       ("share", 0x4049000000000000)] := by
    decide +kernel
  have names : columns.value.map Column.name =
      ((Column.sort linesDeclared).map fun column => (column.name, column.order.rank)).map
        Prod.fst := by
    rw [value_eq, List.map_map]
    rfl
  rw [names, Column.map_sort, keys]
  simp [List.mergeSort]

end Field
end SchemaForms
