import Mathlib.Data.List.Nodup
import SchemaForms.OrderedMap.Basic
/-! What a lookup sees of each operation on ordered maps. Maps with the same keys in the same order
and the same lookups are equal, so that laws of maps are proved key by key. -/
namespace SchemaForms

namespace Entries
variable {α β : Type}

@[simp] theorem keys_nil : keys ([] : Entries α) = [] := rfl

@[simp] theorem keys_cons (entry : String × α) (rest : Entries α) :
    keys (entry :: rest) = entry.1 :: keys rest := rfl

@[simp] theorem get?_nil (key : String) : get? ([] : Entries α) key = none := rfl

theorem get?_cons (name : String) (value : α) (rest : Entries α) (key : String) :
    get? ((name, value) :: rest) key = if name = key then some value else get? rest key := by
  unfold get?
  rw [List.lookup_cons]
  by_cases same : name = key
  · simp [same]
  · have differs : (key == name) = false := beq_eq_false_iff_ne.mpr (Ne.symm same)
    simp [same, differs]

theorem get?_eq_none_iff {entries : Entries α} {key : String} :
    get? entries key = none ↔ key ∉ keys entries := by
  induction entries with
  | nil => simp
  | cons entry rest ih =>
    obtain ⟨name, value⟩ := entry
    rw [get?_cons, keys_cons, List.mem_cons, not_or]
    by_cases same : name = key
    · simp [same]
    · simp [same, ih, Ne.symm same]

theorem isSome_get?_iff {entries : Entries α} {key : String} :
    (get? entries key).isSome ↔ key ∈ keys entries := by
  rw [← Option.ne_none_iff_isSome, ne_eq, get?_eq_none_iff, not_not]

theorem mem_of_get? {entries : Entries α} {key : String} {value : α}
    (found : get? entries key = some value) : (key, value) ∈ entries := by
  induction entries with
  | nil => cases found
  | cons entry rest ih =>
    obtain ⟨name, other⟩ := entry
    rw [get?_cons] at found
    by_cases same : name = key
    · rw [if_pos same, Option.some.injEq] at found
      rw [same, found]
      exact List.mem_cons_self
    · rw [if_neg same] at found
      exact List.mem_cons_of_mem _ (ih found)

theorem mem_keys_of_mem {entries : Entries α} {key : String} {value : α}
    (member : (key, value) ∈ entries) : key ∈ keys entries := List.mem_map_of_mem member

theorem get?_of_mem {entries : Entries α} (nodup : (keys entries).Nodup) {key : String} {value : α}
    (member : (key, value) ∈ entries) : get? entries key = some value := by
  induction entries with
  | nil => cases member
  | cons entry rest ih =>
    obtain ⟨name, other⟩ := entry
    rw [keys_cons, List.nodup_cons] at nodup
    rw [get?_cons]
    rcases List.mem_cons.mp member with same | later
    · cases same
      rw [if_pos rfl]
    · have differs : name ≠ key := by
        rintro rfl
        exact nodup.1 (mem_keys_of_mem later)
      rw [if_neg differs]
      exact ih nodup.2 later

theorem get?_append (first second : Entries α) (key : String) :
    get? (first ++ second) key = (get? first key).or (get? second key) := by
  induction first with
  | nil => simp
  | cons entry rest ih =>
    obtain ⟨name, value⟩ := entry
    rw [List.cons_append, get?_cons, get?_cons]
    by_cases same : name = key
    · simp [same]
    · simp [same, ih]

theorem ext_of_get? {first second : Entries α} (nodup : (keys first).Nodup)
    (same_keys : keys first = keys second) (same : ∀ key, get? first key = get? second key) :
    first = second := by
  induction first generalizing second with
  | nil =>
    cases second with
    | nil => rfl
    | cons => cases same_keys
  | cons entry rest ih =>
    cases second with
    | nil => cases same_keys
    | cons entry' rest' =>
      obtain ⟨name, value⟩ := entry
      obtain ⟨name', value'⟩ := entry'
      simp only [keys_cons, List.cons.injEq] at same_keys
      obtain ⟨rfl, keys_rest⟩ := same_keys
      rw [keys_cons, List.nodup_cons] at nodup
      have value_eq : value = value' := by
        have here := same name
        rw [get?_cons, get?_cons, if_pos rfl, if_pos rfl] at here
        exact Option.some.inj here
      have rest_eq : ∀ key, get? rest key = get? rest' key := by
        intro key
        by_cases at_name : name = key
        · subst at_name
          rw [get?_eq_none_iff.mpr nodup.1, get?_eq_none_iff.mpr (keys_rest ▸ nodup.1)]
        · have there := same key
          rwa [get?_cons, get?_cons, if_neg at_name, if_neg at_name] at there
      rw [value_eq, ih nodup.2 keys_rest rest_eq]

theorem get?_upsert (entries : Entries α) (name key : String) (f : Option α → α) :
    get? (upsert name f entries) key =
      if name = key then some (f (get? entries name)) else get? entries key := by
  induction entries with
  | nil => rw [upsert, get?_cons, get?_nil, get?_nil]
  | cons entry rest ih =>
    obtain ⟨first, value⟩ := entry
    by_cases here : first = name
    · subst here
      rw [upsert, if_pos rfl, get?_cons, get?_cons, get?_cons, if_pos rfl]
      by_cases same : first = key <;> simp [same]
    · rw [upsert, if_neg here, get?_cons, ih, get?_cons, get?_cons, if_neg here]
      by_cases at_first : first = key
      · have differs : name ≠ key := fun same => here (at_first.trans same.symm)
        rw [if_pos at_first, if_neg differs, if_pos at_first]
      · rw [if_neg at_first, if_neg at_first]

/-- Replacing a value by itself changes nothing. -/
theorem upsert_of_get? {entries : Entries α} {key : String} {value : α} {f : Option α → α}
    (found : get? entries key = some value) (stays : f (some value) = value) :
    upsert key f entries = entries := by
  induction entries with
  | nil => cases found
  | cons entry rest ih =>
    obtain ⟨name, other⟩ := entry
    rw [get?_cons] at found
    by_cases same : name = key
    · rw [if_pos same, Option.some.injEq] at found
      rw [upsert, if_pos same, found, stays]
    · rw [if_neg same] at found
      rw [upsert, if_neg same, ih found]

theorem get?_insert (entries : Entries α) (name key : String) (value : α) :
    get? (insert entries name value) key = if name = key then some value else get? entries key :=
  get?_upsert entries name key _

theorem insert_cons_of_ne {name key : String} (differs : name ≠ key) (old value : α)
    (rest : Entries α) :
    insert ((name, old) :: rest) key value = (name, old) :: insert rest key value := by
  rw [insert, upsert, if_neg differs, insert]

theorem insertAll_cons (entries : Entries α) (name : String) (value : α) (rest : Entries α) :
    insertAll entries ((name, value) :: rest) = insertAll (insert entries name value) rest := rfl

/-- An entry whose name is not inserted again stays in front. -/
theorem insertAll_cons_of_not_mem {key : String} {value : α} {entries added : Entries α}
    (new : key ∉ keys added) :
    insertAll ((key, value) :: entries) added = (key, value) :: insertAll entries added := by
  induction added generalizing entries with
  | nil => rfl
  | cons entry rest ih =>
    obtain ⟨name, later⟩ := entry
    rw [keys_cons, List.mem_cons, not_or] at new
    rw [insertAll_cons, insert_cons_of_ne new.1, ih new.2, insertAll_cons]

theorem upsert_of_not_mem {key : String} {f : Option α → α} {entries : Entries α}
    (new : key ∉ keys entries) : upsert key f entries = entries ++ [(key, f none)] := by
  induction entries with
  | nil => rfl
  | cons entry rest ih =>
    rw [keys_cons, List.mem_cons, not_or] at new
    rw [upsert, if_neg (Ne.symm new.1), ih new.2, List.cons_append]

theorem insert_append (first second : Entries α) (key : String) (value : α) :
    insert (first ++ second) key value =
      if key ∈ keys first then insert first key value ++ second
      else first ++ insert second key value := by
  induction first with
  | nil => rfl
  | cons entry rest ih =>
    obtain ⟨name, old⟩ := entry
    rw [List.cons_append]
    by_cases same : name = key
    · simp [insert, upsert, same]
    · rw [insert_cons_of_ne same, insert_cons_of_ne same, ih]
      by_cases later : key ∈ keys rest <;> simp [later, Ne.symm same]

/-- What stands under a name in the middle is replaced, whatever it is, or is left where it is. -/
theorem insertAll_middle {key : String} {before : Entries α} (absent : key ∉ keys before)
    (after added : Entries α) :
    (∀ value other, insertAll (before ++ (key, value) :: after) added =
      insertAll (before ++ (key, other) :: after) added) ∨
    ∃ before' after', ∀ value, insertAll (before ++ (key, value) :: after) added =
      before' ++ (key, value) :: after' := by
  induction added generalizing before after with
  | nil => exact .inr ⟨before, after, fun _ => rfl⟩
  | cons entry rest ih =>
    obtain ⟨name, new⟩ := entry
    simp only [insertAll_cons, insert_append]
    by_cases earlier : name ∈ keys before
    · simp only [if_pos earlier]
      refine ih ?_ after
      rwa [insert, keys_upsert_of_mem earlier]
    · simp only [if_neg earlier]
      by_cases here : key = name
      · refine .inl fun value other => ?_
        simp [insert, upsert, here]
      · simp only [insert_cons_of_ne here]
        exact ih absent (insert after name new)

/-- Entries under new and distinct names are appended as they are. -/
theorem insertAll_eq_append {entries added : Entries α}
    (nodup : (keys (entries ++ added)).Nodup) : insertAll entries added = entries ++ added := by
  induction added generalizing entries with
  | nil => exact (List.append_nil entries).symm
  | cons entry rest ih =>
    obtain ⟨name, value⟩ := entry
    have split : entries ++ (name, value) :: rest = entries ++ [(name, value)] ++ rest :=
      List.append_cons entries (name, value) rest
    have new : name ∉ keys entries := by
      rw [keys, List.map_append, List.nodup_append] at nodup
      exact fun here => nodup.2.2 _ here _ List.mem_cons_self rfl
    rw [insertAll_cons, insert, upsert_of_not_mem new, split]
    exact ih (split ▸ nodup)

/-- Only the last entry of a name is seen. -/
theorem get?_insertAll (entries added : Entries α) (key : String) :
    get? (insertAll entries added) key = (get? added.reverse key).or (get? entries key) := by
  induction added generalizing entries with
  | nil => simp [insertAll]
  | cons entry rest ih =>
    obtain ⟨name, value⟩ := entry
    rw [insertAll_cons, ih, get?_insert, List.reverse_cons, get?_append, get?_cons, get?_nil]
    by_cases same : name = key
    · simp [same]
    · simp [same]

/-- A new name takes its place at the end when it is first inserted. -/
theorem keys_insertAll (entries added : Entries α) :
    keys (insertAll entries added) =
      keys entries ++ ((keys added).filter fun key => !(keys entries).contains key).eraseDups := by
  induction added generalizing entries with
  | nil => simp [insertAll]
  | cons entry rest ih =>
    obtain ⟨name, value⟩ := entry
    rw [insertAll_cons, ih, keys_cons]
    by_cases here : name ∈ keys entries
    · rw [insert, keys_upsert_of_mem here, List.filter_cons_of_neg (by simpa using here)]
    · rw [insert, keys_upsert_of_not_mem here, List.filter_cons_of_pos (by simpa using here),
        List.eraseDups_cons, List.filter_filter, List.append_assoc, List.singleton_append]
      congr 3
      apply List.filter_congr
      intro key _
      simp [Bool.and_comm, beq_eq_decide]

theorem eraseDups_of_nodup {names : List String} (nodup : names.Nodup) :
    names.eraseDups = names := by
  induction names with
  | nil => rfl
  | cons name rest ih =>
    rw [List.nodup_cons] at nodup
    have others : rest.filter (fun other => !other == name) = rest := by
      refine List.filter_eq_self.mpr fun other member => ?_
      have differs : other ≠ name := fun same => nodup.1 (same ▸ member)
      simp [differs]
    rw [List.eraseDups_cons, others, ih nodup.2]

/-- Distinct new names are appended in their order. -/
theorem keys_insertAll_of_nodup (entries : Entries α) {added : Entries α}
    (nodup : (keys added).Nodup) :
    keys (insertAll entries added) =
      keys entries ++ (keys added).filter (· ∉ keys entries) := by
  rw [keys_insertAll, eraseDups_of_nodup (nodup.filter _)]
  simp

theorem mem_keys_insertAll {entries added : Entries α} {key : String} :
    key ∈ keys (insertAll entries added) ↔ key ∈ keys entries ∨ key ∈ keys added := by
  rw [keys_insertAll, List.mem_append, List.mem_eraseDups, List.mem_filter]
  by_cases here : key ∈ keys entries
  · simp [here]
  · simp [here]

theorem get?_reverse {entries : Entries α} (nodup : (keys entries).Nodup) (key : String) :
    get? entries.reverse key = get? entries key := by
  have nodup_reverse : (keys entries.reverse).Nodup := by
    rw [keys, List.map_reverse]
    exact List.nodup_reverse.mpr nodup
  apply Option.ext
  intro value
  constructor
  · intro found
    exact get?_of_mem nodup (List.mem_reverse.mp (mem_of_get? found))
  · intro found
    exact get?_of_mem nodup_reverse (List.mem_reverse.mpr (mem_of_get? found))

theorem get?_filter_keys (keep : String → Bool) (entries : Entries α) (key : String) :
    get? (entries.filter (fun entry => keep entry.1)) key =
      if keep key then get? entries key else none := by
  induction entries with
  | nil => simp
  | cons entry rest ih =>
    obtain ⟨name, value⟩ := entry
    rw [List.filter_cons]
    by_cases kept : keep name = true
    · rw [if_pos kept, get?_cons, get?_cons, ih]
      by_cases same : name = key
      · rw [if_pos same, if_pos same, if_pos (same ▸ kept)]
      · rw [if_neg same, if_neg same]
    · rw [if_neg kept, ih, get?_cons]
      by_cases same : name = key
      · rw [if_neg (same ▸ kept), if_neg (same ▸ kept)]
      · rw [if_neg same]

theorem keys_filter_keys (keep : String → Bool) (entries : Entries α) :
    keys (entries.filter (fun entry => keep entry.1)) = (keys entries).filter keep := by
  simp [keys, List.filter_map, Function.comp_def]

theorem erase_cons (name : String) (value : α) (rest : Entries α) (key : String) :
    erase ((name, value) :: rest) key =
      if name = key then erase rest key else (name, value) :: erase rest key := by
  by_cases same : name = key <;> simp [erase, same]

theorem get?_erase (entries : Entries α) (name key : String) :
    get? (erase entries name) key = if name = key then none else get? entries key := by
  have filtered := get?_filter_keys (fun entry => decide (entry ≠ name)) entries key
  rw [erase, filtered]
  by_cases same : name = key
  · simp [same]
  · simp [same, Ne.symm same]

theorem get?_modify (entries : Entries α) (name key : String) (f : α → α) :
    get? (modify entries name f) key =
      if name = key then (get? entries key).map f else get? entries key := by
  induction entries with
  | nil => simp [modify]
  | cons entry rest ih =>
    obtain ⟨first, value⟩ := entry
    have step : modify ((first, value) :: rest) name f =
        (first, if first = name then f value else value) :: modify rest name f := by
      by_cases here : first = name <;> simp [modify, here]
    rw [step, get?_cons, ih, get?_cons]
    by_cases at_first : first = key
    · subst at_first
      by_cases same : name = first
      · simp [same]
      · simp [same, Ne.symm same]
    · rw [if_neg at_first, if_neg at_first]

theorem get?_mapValues (f : α → β) (entries : Entries α) (key : String) :
    get? (mapValues f entries) key = (get? entries key).map f := by
  induction entries with
  | nil => rfl
  | cons entry rest ih =>
    obtain ⟨name, value⟩ := entry
    have step : mapValues f ((name, value) :: rest) = (name, f value) :: mapValues f rest := rfl
    rw [step, get?_cons, get?_cons, ih]
    by_cases same : name = key <;> simp [same]

theorem get?_filterMapValues {entries : Entries α} (nodup : (keys entries).Nodup)
    (f : α → Option β) (key : String) :
    get? (filterMapValues f entries) key = (get? entries key).bind f := by
  induction entries with
  | nil => rfl
  | cons entry rest ih =>
    obtain ⟨name, value⟩ := entry
    rw [keys_cons, List.nodup_cons] at nodup
    have later := ih nodup.2
    rw [get?_cons]
    cases kept : f value with
    | none =>
      have step : filterMapValues f ((name, value) :: rest) = filterMapValues f rest := by
        simp [filterMapValues, kept]
      rw [step, later]
      by_cases same : name = key
      · subst same
        rw [if_pos rfl, Option.bind_some, kept, get?_eq_none_iff.mpr nodup.1, Option.bind_none]
      · rw [if_neg same]
    | some read =>
      have step : filterMapValues f ((name, value) :: rest) =
          (name, read) :: filterMapValues f rest := by
        simp [filterMapValues, kept]
      rw [step, get?_cons, later]
      by_cases same : name = key
      · rw [if_pos same, if_pos same, Option.bind_some, kept]
      · rw [if_neg same, if_neg same]

/-- Entries under the same names and in the same order, with values that correspond. -/
abbrev Corresponds (related : α → β → Prop) : Entries α → Entries β → Prop :=
  List.Forall₂ fun entry entry' => entry.1 = entry'.1 ∧ related entry.2 entry'.2

section
variable {related : α → β → Prop}

/-- Entries that correspond in order are found under the same names. -/
theorem rel_get?_of_forall₂ {entries : Entries α} {entries' : Entries β}
    (all : Corresponds related entries entries') (key : String) :
    Option.Rel related (get? entries key) (get? entries' key) := by
  induction all with
  | nil => exact .none
  | @cons entry entry' rest rest' here _ ih =>
    obtain ⟨name, value⟩ := entry
    obtain ⟨name', value'⟩ := entry'
    obtain ⟨rfl, here⟩ := here
    rw [get?_cons, get?_cons]
    by_cases same : name = key
    · rw [if_pos same, if_pos same]
      exact .some here
    · rw [if_neg same, if_neg same]
      exact ih

theorem corresponds_insert {entries : Entries α} {entries' : Entries β}
    (all : Corresponds related entries entries') {value : α} {value' : β}
    (here : related value value') (key : String) :
    Corresponds related (insert entries key value) (insert entries' key value') := by
  induction all with
  | nil => exact .cons ⟨rfl, here⟩ .nil
  | @cons entry entry' rest rest' first later ih =>
    obtain ⟨name, old⟩ := entry
    obtain ⟨name', old'⟩ := entry'
    obtain ⟨rfl, first⟩ := first
    by_cases same : name = key
    · rw [insert, insert, upsert, upsert, if_pos same, if_pos same]
      exact .cons ⟨rfl, here⟩ later
    · rw [insert_cons_of_ne same, insert_cons_of_ne same]
      exact .cons ⟨rfl, first⟩ ih

theorem corresponds_insertAll {entries added : Entries α} {entries' added' : Entries β}
    (all : Corresponds related entries entries') (new : Corresponds related added added') :
    Corresponds related (insertAll entries added) (insertAll entries' added') := by
  induction new generalizing entries entries' with
  | nil => exact all
  | @cons entry entry' rest rest' first later ih =>
    obtain ⟨name, value⟩ := entry
    obtain ⟨name', value'⟩ := entry'
    obtain ⟨rfl, first⟩ := first
    exact ih (corresponds_insert all first name)

end

end Entries

namespace OrderedMap
variable {α β : Type}

/-- The entries that `keep` accepts, in their order. -/
def filter (keep : String × α → Bool) (m : OrderedMap α) : OrderedMap α :=
  ⟨m.entries.filter keep, m.nodup.sublist (List.filter_sublist.map Prod.fst)⟩

theorem get?_eq_none_iff {m : OrderedMap α} {key : String} : m.get? key = none ↔ key ∉ m.keys :=
  Entries.get?_eq_none_iff

theorem isSome_get?_iff {m : OrderedMap α} {key : String} : (m.get? key).isSome ↔ key ∈ m.keys :=
  Entries.isSome_get?_iff

theorem mem_keys_iff {m : OrderedMap α} {key : String} :
    key ∈ m.keys ↔ ∃ value, m.get? key = some value := by
  rw [← isSome_get?_iff, Option.isSome_iff_exists]

theorem contains_iff {m : OrderedMap α} {key : String} : m.contains key ↔ key ∈ m.keys :=
  Entries.isSome_get?_iff

/-- The entries of a map are what its lookups find. -/
theorem mem_entries_iff {m : OrderedMap α} {key : String} {value : α} :
    (key, value) ∈ m.entries ↔ m.get? key = some value :=
  ⟨Entries.get?_of_mem m.nodup, Entries.mem_of_get?⟩

theorem get?_upsert (m : OrderedMap α) (name key : String) (f : Option α → α) :
    (m.upsert name f).get? key = if name = key then some (f (m.get? name)) else m.get? key :=
  Entries.get?_upsert m.entries name key f

theorem get?_erase (m : OrderedMap α) (name key : String) :
    (m.erase name).get? key = if name = key then none else m.get? key :=
  Entries.get?_erase m.entries name key

theorem erase_erase (m : OrderedMap α) (name : String) :
    (m.erase name).erase name = m.erase name := by
  apply OrderedMap.ext
  simp [erase, Entries.erase, List.filter_filter]

theorem get?_modify (m : OrderedMap α) (name key : String) (f : α → α) :
    (m.modify name f).get? key = if name = key then (m.get? key).map f else m.get? key :=
  Entries.get?_modify m.entries name key f

theorem keys_modify (m : OrderedMap α) (name : String) (f : α → α) :
    (m.modify name f).keys = m.keys := Entries.keys_modify m.entries name f

theorem get?_mapValues (f : α → β) (m : OrderedMap α) (key : String) :
    (m.mapValues f).get? key = (m.get? key).map f := Entries.get?_mapValues f m.entries key

theorem get?_insertAll (m : OrderedMap α) (added : Entries α) (key : String) :
    (m.insertAll added).get? key = (Entries.get? added.reverse key).or (m.get? key) :=
  Entries.get?_insertAll m.entries added key

theorem get?_ofEntries (entries : Entries α) (key : String) :
    (ofEntries entries).get? key = Entries.get? entries.reverse key := by
  rw [ofEntries, get?_insertAll]
  exact Option.or_none

theorem ext_of_get? {m n : OrderedMap α} (same_keys : m.keys = n.keys)
    (same : ∀ key, m.get? key = n.get? key) : m = n :=
  ext (Entries.ext_of_get? m.nodup same_keys same)

/-- Lookups do not see the order of the entries. -/
theorem get?_of_perm {m n : OrderedMap α} (permuted : m.entries.Perm n.entries) (key : String) :
    m.get? key = n.get? key := by
  apply Option.ext
  intro value
  rw [← mem_entries_iff, ← mem_entries_iff, permuted.mem_iff]

/-- The entries of one map are those of the other in any order, up to values that correspond. -/
def Reorders (related : α → β → Prop) (m : OrderedMap α) (n : OrderedMap β) : Prop :=
  ∃ middle : Entries α, m.entries.Perm middle ∧
    List.Forall₂ (fun entry entry' => entry.1 = entry'.1 ∧ related entry.2 entry'.2)
      middle n.entries

theorem rel_get?_of_reorders {related : α → β → Prop} {m : OrderedMap α} {n : OrderedMap β}
    (reorders : Reorders related m n) (key : String) :
    Option.Rel related (m.get? key) (n.get? key) := by
  obtain ⟨middle, permuted, all⟩ := reorders
  have middle_nodup : (Entries.keys middle).Nodup := (permuted.map Prod.fst).nodup m.nodup
  have found : m.get? key = Entries.get? middle key :=
    get?_of_perm (n := ⟨middle, middle_nodup⟩) permuted key
  rw [found]
  exact Entries.rel_get?_of_forall₂ all key

/-- The value of a key is that of the last entry under it. -/
theorem exists_last_of_get?_ofEntries {entries : Entries α} {key : String} {value : α}
    (found : (ofEntries entries).get? key = some value) :
    ∃ before after, entries = before ++ (key, value) :: after ∧ key ∉ Entries.keys after := by
  rw [get?_ofEntries] at found
  obtain ⟨after, before, reversed, others⟩ := List.lookup_eq_some_iff.mp found
  refine ⟨before.reverse, after.reverse, ?_, ?_⟩
  · have entries_eq := congrArg List.reverse reversed
    simpa using entries_eq
  · intro member
    obtain ⟨entry, among, same⟩ := List.mem_map.mp member
    have differs := others entry (List.mem_reverse.mp among)
    rw [same, bne_self_eq_false] at differs
    cases differs

theorem keys_ofEntries (entries : Entries α) :
    (ofEntries entries).keys = (Entries.keys entries).eraseDups := by
  have all_new : (Entries.keys entries).filter (fun key => !([] : List String).contains key) =
      Entries.keys entries := List.filter_eq_self.mpr fun _ _ => rfl
  have inserted := Entries.keys_insertAll [] entries
  rwa [Entries.keys_nil, List.nil_append, all_new] at inserted

theorem ofEntries_entries (m : OrderedMap α) : ofEntries m.entries = m :=
  ext (Entries.insertAll_eq_append m.nodup)

theorem mem_of_mem_entries_ofEntries {entries : Entries α} {entry : String × α}
    (member : entry ∈ (ofEntries entries).entries) : entry ∈ entries := by
  have found := mem_entries_iff.mp member
  rw [get?_ofEntries] at found
  exact List.mem_reverse.mp (Entries.mem_of_get? found)

/-- Entries under distinct names all stay. -/
theorem mem_entries_ofEntries_of_nodup {entries : Entries α} (nodup : (Entries.keys entries).Nodup)
    {entry : String × α} (member : entry ∈ entries) : entry ∈ (ofEntries entries).entries := by
  apply mem_entries_iff.mpr
  rw [get?_ofEntries, Entries.get?_reverse nodup]
  exact Entries.get?_of_mem nodup member

end OrderedMap
end SchemaForms
