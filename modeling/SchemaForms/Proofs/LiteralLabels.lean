import Mathlib.Data.Finset.Card
import SchemaForms.Proofs.FormLabels
/-! Literals and their labels. Literals of one display text share a label below their parent, which
says that text whichever of them is registered last, and no label of another key is touched. -/
namespace SchemaForms

/-- Labels of one key that all say the same. -/
theorem lastText?_of_same {key : LocaleKey} {text : String} {labels : List Label}
    (labelled : ∃ label ∈ labels, label.key = key)
    (same : ∀ label ∈ labels, label.key = key → label.text = text) :
    lastText? key labels = some text := by
  induction labels with
  | nil => obtain ⟨_, member, _⟩ := labelled; cases member
  | cons label rest ih =>
    rw [List.forall_mem_cons] at same
    rw [lastText?]
    by_cases later : ∃ other ∈ rest, other.key = key
    · rw [ih later same.2, Option.some_or]
    · have none_later : lastText? key rest = none :=
        lastText?_eq_none fun other member here => later ⟨other, member, here⟩
      obtain ⟨found, member, here⟩ := labelled
      rcases List.mem_cons.mp member with rfl | in_rest
      · rw [none_later, if_pos here, same.1 here, Option.none_or]
      · exact absurd ⟨found, in_rest, here⟩ later

namespace LocaleMap

/-- Registered keys stay where they are, and each new one comes once behind them. -/
theorem exists_keys_registerAll (map : LocaleMap) (labels : List Label) :
    ∃ new, (registerAll map labels).keys = map.keys ++ new ∧ new.Nodup ∧
      ∀ path, path ∈ new ↔ (∃ label ∈ labels, label.key.path = path) ∧ path ∉ map.keys := by
  have keys_eq := Entries.keys_insertAll map.entries
    (labels.map fun label => (label.key.path, label.text))
  refine ⟨_, by rw [registerAll_eq]; exact keys_eq, ?_, fun path => ?_⟩
  · have nodup := (registerAll map labels).nodup
    rw [registerAll_eq, OrderedMap.insertAll, keys_eq] at nodup
    exact nodup.of_append_right
  · rw [List.mem_eraseDups, List.mem_filter]
    simp [Entries.keys, OrderedMap.keys]

/-- What registering literals below a parent does. Each literal is given back with a label that says
its display text; labels of other keys say what they said; the keys that were there come first, in
their order, and there is one new key for each display text that was not registered. -/
structure RegistersLiterals (map : LocaleMap) (parent : LocaleKey) (literals : List Json)
    (after : LocaleMap) (choices : List Choice) : Prop where
  each : List.Forall₂ (fun literal choice => choice.literal = literal ∧
    choice.label = parent.child (literalText literal) ∧
    after.get? choice.label.path = some (literalText literal)) literals choices
  others : ∀ path, (∀ choice ∈ choices, choice.label.path ≠ path) →
    after.get? path = map.get? path
  keys : ∃ new, after.keys = map.keys ++ new ∧
    new.length = ((literals.map literalText).toFinset.filter
      fun text => (parent.child text).path ∉ map.keys).card

theorem child_path_injective (parent : LocaleKey) :
    Function.Injective fun text => (parent.child text).path := fun _ _ same =>
  LocaleKey.child_inj.mp (congrArg LocaleKey.mk same)

/-- Literals whose labels have one key have one display text. -/
theorem get?_registerLiterals (map : LocaleMap) (parent : LocaleKey) {literals : List Json}
    {literal : Json} (member : literal ∈ literals) :
    (registerLiterals map parent literals).1.get? (parent.child (literalText literal)).path =
      some (literalText literal) := by
  have text : lastText? (parent.child (literalText literal))
      (literals.map (literalLabel parent)) = some (literalText literal) := by
    refine lastText?_of_same ⟨_, List.mem_map_of_mem member, rfl⟩ fun label among here => ?_
    obtain ⟨other, _, rfl⟩ := List.mem_map.mp among
    exact LocaleKey.child_inj.mp here
  rw [registerLiterals, get?_registerAll, text, Option.some_or]

theorem get?_registerLiterals_of_other (map : LocaleMap) {parent : LocaleKey}
    {literals : List Json} {path : String}
    (others : ∀ literal ∈ literals, (choice parent literal).label.path ≠ path) :
    (registerLiterals map parent literals).1.get? path = map.get? path := by
  have no_label : lastText? ⟨path⟩ (literals.map (literalLabel parent)) = none := by
    refine lastText?_eq_none fun label among here => ?_
    obtain ⟨literal, member, rfl⟩ := List.mem_map.mp among
    exact others literal member (congrArg LocaleKey.path here)
  have found := get?_registerAll map (literals.map (literalLabel parent)) ⟨path⟩
  rwa [no_label, Option.none_or] at found

/-- Display texts and keys below one parent count alike. -/
theorem exists_keys_registerLiterals (map : LocaleMap) (parent : LocaleKey)
    (literals : List Json) :
    ∃ new, (registerLiterals map parent literals).1.keys = map.keys ++ new ∧
      new.length = ((literals.map literalText).toFinset.filter
        fun text => (parent.child text).path ∉ map.keys).card := by
  obtain ⟨new, keys_eq, nodup, mem_new⟩ :=
    exists_keys_registerAll map (literals.map (literalLabel parent))
  have new_eq : new.toFinset = ((literals.map literalText).toFinset.filter
      fun text => (parent.child text).path ∉ map.keys).image
        fun text => (parent.child text).path := by
    ext path
    simp only [List.mem_toFinset, mem_new, Finset.mem_image, Finset.mem_filter, List.mem_map,
      exists_exists_and_eq_and, literalLabel]
    constructor
    · rintro ⟨⟨literal, member, rfl⟩, absent⟩
      exact ⟨literalText literal, ⟨⟨literal, member, rfl⟩, absent⟩, rfl⟩
    · rintro ⟨_, ⟨⟨literal, member, rfl⟩, absent⟩, rfl⟩
      exact ⟨⟨literal, member, rfl⟩, absent⟩
  refine ⟨new, keys_eq, ?_⟩
  rw [← List.toFinset_card_of_nodup nodup, new_eq,
    Finset.card_image_of_injective _ (child_path_injective parent)]

/-- Literals, with duplicates and with such that only look alike, are given back in their order
under labels that say their display texts. -/
theorem registerLiterals_registers (map : LocaleMap) (parent : LocaleKey) (literals : List Json) :
    RegistersLiterals map parent literals (registerLiterals map parent literals).1
      (registerLiterals map parent literals).2 := by
  refine ⟨?_, fun path others => ?_, exists_keys_registerLiterals map parent literals⟩
  · refine List.forall₂_map_right_iff.mpr (List.forall₂_same.mpr fun literal member => ?_)
    exact ⟨rfl, rfl, get?_registerLiterals map parent member⟩
  · refine get?_registerLiterals_of_other map fun literal member => ?_
    exact others _ (List.mem_map_of_mem member)

/-- A number and a text that look alike share a label. -/
example :
    let registered := registerLiterals (.ofEntries [("forms.a", "A"), ("forms.a.open", "Open")])
      ⟨"forms.a"⟩ [.number (.int 1), .string "open", .string "1"]
    registered.1.entries =
        [("forms.a", "A"), ("forms.a.open", "open"), ("forms.a.1", "1")] ∧
      registered.2 = [⟨⟨"forms.a.1"⟩, .number (.int 1)⟩, ⟨⟨"forms.a.open"⟩, .string "open"⟩,
        ⟨⟨"forms.a.1"⟩, .string "1"⟩] := by
  decide +kernel

end LocaleMap
end SchemaForms
