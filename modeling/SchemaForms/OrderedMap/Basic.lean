/-! Mappings from names that keep the order in which each name first appeared. The operations
are written once on lists of entries; the bundled type adds that no name occurs twice. -/
namespace SchemaForms

/-- Name and value pairs, in order. -/
abbrev Entries (α : Type) := List (String × α)

namespace Entries
variable {α β : Type}

def keys (entries : Entries α) : List String := entries.map Prod.fst

def get? (entries : Entries α) (key : String) : Option α := entries.lookup key

/-- The value under `key` becomes `f` of what is there; a new key goes to the end. -/
def upsert (key : String) (f : Option α → α) : Entries α → Entries α
  | [] => [(key, f none)]
  | (k, v) :: rest => if k = key then (k, f (some v)) :: rest else (k, v) :: upsert key f rest

def insert (entries : Entries α) (key : String) (value : α) : Entries α :=
  upsert key (fun _ => value) entries

/-- A missing key changes nothing. -/
def modify (entries : Entries α) (key : String) (f : α → α) : Entries α :=
  entries.map (fun entry => if entry.1 = key then (entry.1, f entry.2) else entry)

def erase (entries : Entries α) (key : String) : Entries α :=
  entries.filter (fun entry => entry.1 ≠ key)

/-- Later entries replace the values of earlier ones in place. -/
def insertAll (entries : Entries α) (added : Entries α) : Entries α :=
  added.foldl (fun acc entry => insert acc entry.1 entry.2) entries

def mapValues (f : α → β) (entries : Entries α) : Entries β :=
  entries.map (fun entry => (entry.1, f entry.2))

/-- Entries whose value `f` refuses are dropped. -/
def filterMapValues (f : α → Option β) (entries : Entries α) : Entries β :=
  entries.filterMap (fun entry => (f entry.2).map (fun value => (entry.1, value)))

theorem keys_upsert_of_mem {key : String} {f : Option α → α} :
    ∀ {entries : Entries α}, key ∈ keys entries → keys (upsert key f entries) = keys entries
  | [], h => by simp [keys] at h
  | (k, v) :: rest, h => by
    by_cases hk : k = key
    · simp [upsert, hk, keys]
    · have hr : key ∈ keys rest := by
        simp only [keys, List.map_cons, List.mem_cons] at h
        exact h.resolve_left (fun e => hk e.symm)
      simpa [upsert, hk, keys] using keys_upsert_of_mem (f := f) hr

theorem keys_upsert_of_not_mem {key : String} {f : Option α → α} :
    ∀ {entries : Entries α}, key ∉ keys entries →
      keys (upsert key f entries) = keys entries ++ [key]
  | [], _ => rfl
  | (k, v) :: rest, h => by
    simp only [keys, List.map_cons, List.mem_cons, not_or] at h
    have hk : ¬ k = key := fun e => h.1 e.symm
    simpa [upsert, hk, keys] using keys_upsert_of_not_mem (f := f) h.2

theorem nodup_keys_upsert {key : String} {f : Option α → α} {entries : Entries α}
    (h : (keys entries).Nodup) : (keys (upsert key f entries)).Nodup := by
  by_cases hk : key ∈ keys entries
  · rwa [keys_upsert_of_mem hk]
  · rw [keys_upsert_of_not_mem hk]
    exact List.nodup_append.2 ⟨h, by simp, by
      intro a ha b hb e
      simp only [List.mem_singleton] at hb
      exact hk (hb ▸ e ▸ ha)⟩

theorem keys_modify (entries : Entries α) (key : String) (f : α → α) :
    keys (modify entries key f) = keys entries := by
  simp only [keys, modify, List.map_map]
  congr 1
  funext entry
  by_cases h : entry.1 = key <;> simp [h]

theorem keys_erase (key : String) (entries : Entries α) :
    keys (erase entries key) = (keys entries).filter (fun k => k ≠ key) := by
  simp [keys, erase, List.filter_map, Function.comp_def]

theorem nodup_keys_erase {key : String} {entries : Entries α}
    (h : (keys entries).Nodup) : (keys (erase entries key)).Nodup := by
  rw [keys_erase]
  exact h.filter _

theorem nodup_keys_insertAll {entries : Entries α} (h : (keys entries).Nodup)
    (added : Entries α) : (keys (insertAll entries added)).Nodup := by
  induction added generalizing entries with
  | nil => exact h
  | cons entry rest ih => exact ih (nodup_keys_upsert h)

theorem keys_mapValues (f : α → β) (entries : Entries α) :
    keys (mapValues f entries) = keys entries := by
  simp [keys, mapValues, Function.comp_def]

theorem keys_filterMapValues_sublist (f : α → Option β) (entries : Entries α) :
    (keys (filterMapValues f entries)).Sublist (keys entries) := by
  induction entries with
  | nil => exact .slnil
  | cons entry rest ih =>
    obtain ⟨k, v⟩ := entry
    cases h : f v with
    | none => simpa [filterMapValues, keys, h] using ih.cons k
    | some w => simpa [filterMapValues, keys, h] using ih.cons_cons k

end Entries

/-- Entries under pairwise distinct keys. -/
structure OrderedMap (α : Type) where
  entries : Entries α
  nodup : (Entries.keys entries).Nodup := by decide
deriving DecidableEq

namespace OrderedMap
variable {α β : Type}

@[ext] theorem ext {m n : OrderedMap α} (h : m.entries = n.entries) : m = n := by
  cases m; cases n; cases h; rfl

def empty : OrderedMap α := ⟨[], .nil⟩

instance : Inhabited (OrderedMap α) := ⟨empty⟩
instance : EmptyCollection (OrderedMap α) := ⟨empty⟩

def keys (m : OrderedMap α) : List String := Entries.keys m.entries

def values (m : OrderedMap α) : List α := m.entries.map Prod.snd

def get? (m : OrderedMap α) (key : String) : Option α := Entries.get? m.entries key

def contains (m : OrderedMap α) (key : String) : Bool := (m.get? key).isSome

def size (m : OrderedMap α) : Nat := m.entries.length

def isEmpty (m : OrderedMap α) : Bool := m.entries.isEmpty

def upsert (m : OrderedMap α) (key : String) (f : Option α → α) : OrderedMap α :=
  ⟨Entries.upsert key f m.entries, Entries.nodup_keys_upsert m.nodup⟩

/-- Replaces the value of a present key where it stands and appends a new key. -/
def insert (m : OrderedMap α) (key : String) (value : α) : OrderedMap α :=
  m.upsert key (fun _ => value)

/-- Changes the value of a present key; a missing key changes nothing. -/
def modify (m : OrderedMap α) (key : String) (f : α → α) : OrderedMap α :=
  ⟨Entries.modify m.entries key f, by rw [Entries.keys_modify]; exact m.nodup⟩

/-- The other keys keep their order. -/
def erase (m : OrderedMap α) (key : String) : OrderedMap α :=
  ⟨Entries.erase m.entries key, Entries.nodup_keys_erase m.nodup⟩

def insertAll (m : OrderedMap α) (added : Entries α) : OrderedMap α :=
  ⟨Entries.insertAll m.entries added, Entries.nodup_keys_insertAll m.nodup added⟩

def ofEntries (entries : Entries α) : OrderedMap α := empty.insertAll entries

def mapValues (f : α → β) (m : OrderedMap α) : OrderedMap β :=
  ⟨Entries.mapValues f m.entries, by rw [Entries.keys_mapValues]; exact m.nodup⟩

def filterMapValues (f : α → Option β) (m : OrderedMap α) : OrderedMap β :=
  ⟨Entries.filterMapValues f m.entries, m.nodup.sublist (Entries.keys_filterMapValues_sublist f _)⟩

end OrderedMap
end SchemaForms
