import SchemaForms.Proofs.FormFields
/-! A batch is the generations of its definitions one after another, and each of these the outcomes
of its two forms. Every pair of a definition and an operation has an entry of its own, which does
not depend on what becomes of the other pairs. -/
namespace SchemaForms

namespace Generation

theorem append_def (first second : Generation) :
    first ++ second =
      { forms := first.forms ++ second.forms, failures := first.failures ++ second.failures } := rfl

/-- Generations one after another. -/
def concat (parts : List Generation) : Generation :=
  { forms := parts.flatMap forms, failures := parts.flatMap failures }

theorem concat_cons (first : Generation) (rest : List Generation) :
    concat (first :: rest) = first ++ concat rest := by
  simp [concat, append_def]

theorem concat_append (first second : List Generation) :
    concat (first ++ second) = concat first ++ concat second := by
  simp [concat, append_def]

theorem empty_append (generation : Generation) : ({} : Generation) ++ generation = generation := rfl

theorem append_assoc (first second third : Generation) :
    first ++ second ++ third = first ++ (second ++ third) := by
  simp [append_def]

/-- A loop that appends to a generation appends the parts in their order. -/
theorem foldl_append_eq {α : Type} (part : α → Generation) (items : List α) (start : Generation) :
    items.foldl (fun generation item => generation ++ part item) start =
      start ++ concat (items.map part) := by
  induction items generalizing start with
  | nil => simp [concat, append_def]
  | cons item rest ih => rw [List.foldl_cons, ih, List.map_cons, concat_cons, append_assoc]

theorem concat_flatMap {α β : Type} (part : β → Generation) (group : α → List β)
    (items : List α) :
    concat ((items.flatMap group).map part) =
      concat (items.map fun item => concat ((group item).map part)) := by
  induction items with
  | nil => rfl
  | cons item rest ih =>
    rw [List.flatMap_cons, List.map_append, concat_append, ih, List.map_cons, concat_cons]

/-- What the outcome for one form adds to a generation. A skipped definition adds nothing. -/
def ofOutcome : Except FormError (Option GeneratedForm) → Generation
  | .ok none => {}
  | .ok (some form) => { forms := [form] }
  | .error failure => { failures := [failure] }

theorem mem_forms_ofOutcome {outcome : Except FormError (Option GeneratedForm)}
    {form : GeneratedForm} :
    form ∈ (ofOutcome outcome).forms ↔ outcome = .ok (some form) := by
  cases outcome with
  | error failure => simp [ofOutcome]
  | ok form? => cases form? <;> simp [ofOutcome, eq_comm]

end Generation

namespace Generator

/-- A definition with each operation, in the order of generation. -/
def pairsOf (name : String) : List (String × Operation) := Operation.all.map (name, ·)

/-- The pairs of all definitions of the schema. -/
def pairs (generator : Generator) : List (String × Operation) :=
  generator.schema.definitions.keys.flatMap pairsOf

/-- The entry of a pair: the form generated for it, or its failure. -/
def contribution (generator : Generator) (pair : String × Operation) : Generation :=
  .ofOutcome (generator.generateForm pair.1 pair.2)

theorem mem_pairsOf_iff {name other : String} {operation : Operation} :
    (other, operation) ∈ pairsOf name ↔ other = name := by
  have both : operation ∈ Operation.all := by cases operation <;> decide
  simp [pairsOf, both, eq_comm]

theorem mem_pairs_iff {generator : Generator} {name : String} {operation : Operation} :
    (name, operation) ∈ generator.pairs ↔ name ∈ generator.schema.definitions.keys := by
  simp [pairs, mem_pairsOf_iff]

theorem nodup_pairs (generator : Generator) : generator.pairs.Nodup := by
  have both : Operation.all.Nodup := by decide
  rw [pairs, List.nodup_flatMap]
  refine ⟨fun name _ => both.map fun _ _ same => (Prod.mk.inj same).2, ?_⟩
  refine generator.schema.definitions.nodup.imp fun differs => ?_
  rintro ⟨name, operation⟩ first second
  exact differs ((mem_pairsOf_iff.mp first).symm.trans (mem_pairsOf_iff.mp second))

/-- A generated form bears the names that it was asked for. -/
theorem names_of_generateForm {generator : Generator} {name : String} {operation : Operation}
    {form : GeneratedForm} (done : generator.generateForm name operation = .ok (some form)) :
    form.definition = name ∧ form.operation = operation := by
  obtain ⟨definition, rules, _, _, _, built⟩ := generateForm_ok_iff.mp done
  obtain ⟨properties, fields, _, _, rfl⟩ := Schema.buildForm_ok_iff.mp built
  exact ⟨rfl, rfl⟩

theorem generateOnly_of_unknown {generator : Generator} {name : String}
    (unknown : generator.schema.definitions.get? name = none) :
    generator.generateOnly name = .error (.unknownDefinition name) := by
  rw [generateOnly, definition_of_unknown unknown]
  rfl

theorem contribution_of_skipped {generator : Generator} {name : String} {definition : Definition}
    (found : generator.schema.definitions.get? name = some definition)
    (skipped : (generator.rules.definitionRules name).isSkipped = true) (operation : Operation) :
    generator.contribution (name, operation) = {} :=
  congrArg Generation.ofOutcome (generateForm_of_skipped found skipped operation)

theorem contribution_of_shown {generator : Generator} {name : String} {definition : Definition}
    (found : generator.schema.definitions.get? name = some definition)
    (shown : (generator.rules.definitionRules name).isSkipped = false) (operation : Operation) :
    generator.contribution (name, operation) = .ofResult
      (generator.build name definition (generator.rules.definitionRules name) operation) := by
  rw [contribution, generateForm_of_shown found shown]
  cases generator.build name definition (generator.rules.definitionRules name) operation <;> rfl

theorem generateDefinition_eq {generator : Generator} {name : String} {definition : Definition}
    (found : generator.schema.definitions.get? name = some definition) :
    generator.generateDefinition (name, definition) =
      .concat ((pairsOf name).map generator.contribution) := by
  unfold generateDefinition
  rw [pairsOf, List.map_map]
  cases skipped : (generator.rules.definitionRules name).isSkipped with
  | true =>
    simp only [skipped, if_true, Function.comp_def, contribution_of_skipped found skipped]
    rfl
  | false =>
    simp only [skipped, Bool.false_eq_true, if_false, Function.comp_def,
      contribution_of_shown found skipped]
    rw [Generation.foldl_append_eq, Generation.empty_append]

theorem generateOnly_ok_iff {generator : Generator} {name : String} {generation : Generation} :
    generator.generateOnly name = .ok generation ↔
      name ∈ generator.schema.definitions.keys ∧
        generation = .concat ((pairsOf name).map generator.contribution) := by
  by_cases known : name ∈ generator.schema.definitions.keys
  · obtain ⟨definition, found⟩ := OrderedMap.mem_keys_iff.mp known
    have only_eq : generator.generateOnly name =
        .ok (generator.generateDefinition (name, definition)) := by
      rw [generateOnly, definition_ok_iff.mpr found]
      rfl
    rw [only_eq, generateDefinition_eq found, Except.ok.injEq, eq_comm]
    exact (and_iff_right known).symm
  · rw [generateOnly_of_unknown (OrderedMap.get?_eq_none_iff.mpr known)]
    exact iff_of_false nofun fun both => known both.1

/-- A batch is the entries of its pairs. -/
theorem generate_eq (generator : Generator) :
    generator.generate = .concat (generator.pairs.map generator.contribution) := by
  have by_name : generator.schema.definitions.entries.map generator.generateDefinition =
      generator.schema.definitions.keys.map fun name =>
        .concat ((pairsOf name).map generator.contribution) := by
    rw [OrderedMap.keys, Entries.keys, List.map_map]
    exact List.map_congr_left fun entry member =>
      generateDefinition_eq (OrderedMap.mem_entries_iff.mp member)
  rw [generate, Generation.foldl_append_eq, Generation.empty_append, by_name, pairs,
    Generation.concat_flatMap]

theorem mapM_generateOnly {generator : Generator} {names : List String}
    (known : ∀ name ∈ names, name ∈ generator.schema.definitions.keys) :
    names.mapM generator.generateOnly =
      .ok (names.map fun name => .concat ((pairsOf name).map generator.contribution)) :=
  mapM_ok_of_mem fun name member => generateOnly_ok_iff.mpr ⟨known name member, rfl⟩

theorem mem_forms_concat {generator : Generator} {pairs : List (String × Operation)}
    {form : GeneratedForm} :
    form ∈ (Generation.concat (pairs.map generator.contribution)).forms ↔
      (form.definition, form.operation) ∈ pairs ∧
        generator.generateForm form.definition form.operation = .ok (some form) := by
  have entries_eq : (Generation.concat (pairs.map generator.contribution)).forms =
      pairs.flatMap fun pair => (generator.contribution pair).forms := List.flatMap_map _ _ _
  rw [entries_eq, List.mem_flatMap]
  constructor
  · rintro ⟨⟨name, operation⟩, member, contributed⟩
    have generated := Generation.mem_forms_ofOutcome.mp contributed
    obtain ⟨rfl, rfl⟩ := names_of_generateForm generated
    exact ⟨member, generated⟩
  · exact fun ⟨member, generated⟩ =>
      ⟨_, member, Generation.mem_forms_ofOutcome.mpr generated⟩

/-- No two forms of a batch are of the same pair. -/
theorem pairs_of_forms_sublist (generator : Generator) (pairs : List (String × Operation)) :
    ((Generation.concat (pairs.map generator.contribution)).forms.map fun form =>
      (form.definition, form.operation)).Sublist pairs := by
  induction pairs with
  | nil => exact .slnil
  | cons pair rest ih =>
    rw [List.map_cons, Generation.concat_cons, Generation.append_def, List.map_append, contribution]
    cases outcome : generator.generateForm pair.1 pair.2 with
    | error failure => exact ih.cons pair
    | ok form? =>
      cases form? with
      | none => exact ih.cons pair
      | some form =>
        obtain ⟨definition_eq, operation_eq⟩ := names_of_generateForm outcome
        have pair_eq : (form.definition, form.operation) = pair := by
          rw [definition_eq, operation_eq]
        exact pair_eq ▸ ih.cons_cons _

theorem nodup_pairs_of_forms (generator : Generator) :
    (generator.generate.forms.map fun form => (form.definition, form.operation)).Nodup := by
  rw [generate_eq]
  exact generator.nodup_pairs.sublist (pairs_of_forms_sublist generator generator.pairs)

/-- Where a pair that has a form is among those generated, looking the form up is generating it. -/
theorem form?_concat {generator : Generator} {pairs : List (String × Operation)} {name : String}
    {operation : Operation} {form : GeneratedForm}
    (covered : ∀ other, generator.generateForm name operation = .ok (some other) →
      (name, operation) ∈ pairs) :
    (Generation.concat (pairs.map generator.contribution)).form? name operation = some form ↔
      generator.generateForm name operation = .ok (some form) := by
  have of_found : ∀ other,
      (Generation.concat (pairs.map generator.contribution)).form? name operation = some other →
        generator.generateForm name operation = .ok (some other) := by
    intro other found
    have asked := List.find?_some found
    rw [Bool.and_eq_true, decide_eq_true_iff, decide_eq_true_iff] at asked
    have generated := (mem_forms_concat.mp (List.mem_of_find?_eq_some found)).2
    rwa [asked.1, asked.2] at generated
  refine ⟨of_found form, fun generated => ?_⟩
  obtain ⟨name_eq, operation_eq⟩ := names_of_generateForm generated
  have among : form ∈ (Generation.concat (pairs.map generator.contribution)).forms := by
    rw [mem_forms_concat, name_eq, operation_eq]
    exact ⟨covered form generated, generated⟩
  cases found :
      (Generation.concat (pairs.map generator.contribution)).form? name operation with
  | none =>
    have passed_over := List.find?_eq_none.mp found form among
    simp [name_eq, operation_eq] at passed_over
  | some other =>
    have generated' := of_found other found
    rw [generated, Except.ok.injEq, Option.some.injEq] at generated'
    rw [generated']

theorem known_of_generateForm {generator : Generator} {name : String} {operation : Operation}
    {form : GeneratedForm} (done : generator.generateForm name operation = .ok (some form)) :
    name ∈ generator.schema.definitions.keys := by
  obtain ⟨definition, _, found, _⟩ := generateForm_ok_iff.mp done
  exact OrderedMap.mem_keys_iff.mpr ⟨definition, found⟩

/-- How the generation of all forms, of both forms of a definition and of one form agree. -/
structure Agrees (generator : Generator) : Prop where
  /-- All forms are those of the definitions, one definition after the other. -/
  batch : ∃ parts, generator.schema.definitions.keys.mapM generator.generateOnly = .ok parts ∧
    generator.generate = .concat parts
  /-- A definition has the outcomes of its forms, in the order of the operations. -/
  only : ∀ name ∈ generator.schema.definitions.keys, generator.generateOnly name =
    .ok (.concat (Operation.all.map fun operation =>
      .ofOutcome (generator.generateForm name operation)))
  unknown : ∀ name ∉ generator.schema.definitions.keys,
    generator.generateOnly name = .error (.unknownDefinition name) ∧
      ∀ operation, generator.generateForm name operation = .error (.unknownDefinition name)
  skipped : ∀ name ∈ generator.schema.definitions.keys,
    (generator.rules.definitionRules name).isSkipped = true →
    generator.generateOnly name = .ok {} ∧
      ∀ operation, generator.generateForm name operation = .ok none
  nodup : generator.pairs.Nodup
  /-- A pair has one entry, a form or a failure, between those of the pairs around it. -/
  entry : ∀ before name operation after,
    generator.pairs = before ++ (name, operation) :: after →
    (generator.rules.definitionRules name).isSkipped = false →
    ∃ entry : Generation,
      ((∃ form, generator.generateForm name operation = .ok (some form) ∧
          entry = { forms := [form] }) ∨
        ∃ failure, generator.generateForm name operation = .error failure ∧
          entry = { failures := [failure] }) ∧
      generator.generate = .concat (before.map generator.contribution) ++ entry ++
        .concat (after.map generator.contribution)
  form : ∀ name operation form, generator.generate.form? name operation = some form ↔
    generator.generateForm name operation = .ok (some form)
  formOnly : ∀ name operation form generation, generator.generateOnly name = .ok generation →
    (generation.form? name operation = some form ↔
      generator.generateForm name operation = .ok (some form))

/-- The three ways to generate a form agree, whatever is skipped or fails. -/
theorem generate_agrees (generator : Generator) : generator.Agrees where
  batch := by
    refine ⟨_, mapM_generateOnly fun _ => id, ?_⟩
    rw [generate_eq, pairs, Generation.concat_flatMap]
  only := by
    intro name known
    rw [generateOnly_ok_iff.mpr ⟨known, rfl⟩, pairsOf, List.map_map]
    rfl
  unknown := by
    intro name unknown
    have missing := OrderedMap.get?_eq_none_iff.mpr unknown
    exact ⟨generateOnly_of_unknown missing, generateForm_of_unknown missing⟩
  skipped := by
    intro name known skipped
    obtain ⟨definition, found⟩ := OrderedMap.mem_keys_iff.mp known
    refine ⟨generateOnly_ok_iff.mpr ⟨known, ?_⟩, generateForm_of_skipped found skipped⟩
    simp only [pairsOf, List.map_map, Function.comp_def, contribution_of_skipped found skipped]
    rfl
  nodup := nodup_pairs generator
  entry := by
    intro before name operation after pairs_eq shown
    have member : (name, operation) ∈ generator.pairs := by simp [pairs_eq]
    obtain ⟨definition, found⟩ := OrderedMap.mem_keys_iff.mp (mem_pairs_iff.mp member)
    refine ⟨generator.contribution (name, operation), ?_, ?_⟩
    · rw [generateForm_of_shown found shown, contribution_of_shown found shown]
      cases generator.build name definition (generator.rules.definitionRules name) operation with
      | ok form => exact .inl ⟨form, rfl, rfl⟩
      | error failure => exact .inr ⟨failure, rfl, rfl⟩
    · rw [generate_eq, pairs_eq, List.map_append, List.map_cons, Generation.concat_append,
        Generation.concat_cons, Generation.append_assoc]
  form := by
    intro name operation form
    rw [generate_eq]
    exact form?_concat fun _ generated => mem_pairs_iff.mpr (known_of_generateForm generated)
  formOnly := by
    intro name operation form generation done
    obtain ⟨_, rfl⟩ := generateOnly_ok_iff.mp done
    exact form?_concat fun _ _ => mem_pairsOf_iff.mpr rfl

/-- A broken definition, a skipped one, and an order for which no form can be created. -/
def scopedOrders : Generator :=
  let broken : Properties := .ofEntries
    [("lines", { type := some .array, items := some { reference := some "#/definitions/Line" } })]
  let order : Properties := .ofEntries [("note", { type := some .string })]
  { schema :=
      { definitions := .ofEntries
          [("Broken", { properties := broken }), ("Audit", {}),
           ("Order", { properties := order })] }
    rules :=
      { entries := .ofEntries
          [("Audit", .object [("skip", .bool true)]),
           ("Order", .object [("create", .object [("fields", .object
             [("note", .object [("type", .string "sketch")])])])])] } }

theorem scopedOrders_agree :
    scopedOrders.Agrees ∧
      (scopedOrders.generate.forms.map fun form => (form.definition, form.operation)) =
        [("Order", .update)] ∧
      scopedOrders.generate.failures =
        [.unresolvedReference "Broken" "lines" "#/definitions/Line",
         .unresolvedReference "Broken" "lines" "#/definitions/Line",
         .invalidRules "Order" .create "note"
           (.unknownName "sketch" (FieldType.all.map FieldType.name))] := by
  refine ⟨generate_agrees scopedOrders, ?_, ?_⟩
  · decide +kernel
  · decide +kernel

end Generator
end SchemaForms
