import SchemaForms.Yaml.Documents
import SchemaForms.Proofs.Merge
/-! Rule books read from documents and source texts are well formed: a member given twice replaces
the first one, at every depth. -/
namespace SchemaForms

theorem Json.wellFormed_empty : (Json.object []).WellFormed := by
  rw [WellFormed]
  exact ⟨List.nodup_nil, trivial⟩

theorem Json.WellFormed.insert {members : Entries Json} (wellFormed : (Json.object members).WellFormed)
    {value : Json} (value_wellFormed : value.WellFormed) (name : String) :
    (Json.object (Entries.insert members name value)).WellFormed := by
  refine Json.wellFormed_of_members rfl ?_ ?_
  · exact Entries.nodup_keys_upsert wellFormed.nodup_keys
  · intro key member found
    have found : Entries.get? (Entries.insert members name value) key = some member := found
    rw [Entries.get?_insert] at found
    by_cases same : name = key
    · rw [if_pos same, Option.some.injEq] at found
      exact found ▸ value_wellFormed
    · rw [if_neg same] at found
      exact wellFormed.of_get? found

namespace Yaml

theorem wellFormed_of_plainValue? {text : String} {value : Json}
    (read : plainValue? text = some value) : value.WellFormed := by
  unfold plainValue? at read
  split at read
  · cases read; trivial
  · split at read
    · cases read; trivial
    · split at read
      · obtain ⟨number, _, rfl⟩ := Option.map_eq_some_iff.mp read
        trivial
      · cases read; trivial

namespace Node

mutual
theorem wellFormed_of_toJson? {node : Node} {value : Json} (read : toJson? node = some value) :
    value.WellFormed := by
  cases node with
  | scalar text isPlain =>
    rw [toJson?] at read
    split at read
    · exact wellFormed_of_plainValue? read
    · cases read; trivial
  | sequence items =>
    rw [toJson?] at read
    obtain ⟨values, each, rfl⟩ := Option.map_eq_some_iff.mp read
    rw [Json.WellFormed]
    exact wellFormed_of_itemsToJson? each
  | mapping entries =>
    rw [toJson?] at read
    obtain ⟨members, each, rfl⟩ := Option.map_eq_some_iff.mp read
    exact wellFormed_of_entriesToJson? Json.wellFormed_empty each

theorem wellFormed_of_itemsToJson? {items : List Node} {values : List Json}
    (read : itemsToJson? items = some values) : Json.WellFormedItems values := by
  cases items with
  | nil => rw [itemsToJson?] at read; cases read; trivial
  | cons item rest =>
    rw [itemsToJson?] at read
    obtain ⟨value, first, read⟩ := Option.bind_eq_some_iff.mp read
    obtain ⟨others, later, read⟩ := Option.bind_eq_some_iff.mp read
    cases read
    exact ⟨wellFormed_of_toJson? first, wellFormed_of_itemsToJson? later⟩

theorem wellFormed_of_entriesToJson? {members read : Entries Json} {entries : List (Node × Node)}
    (wellFormed : (Json.object members).WellFormed)
    (done : entriesToJson? members entries = some read) : (Json.object read).WellFormed := by
  cases entries with
  | nil => rw [entriesToJson?] at done; cases done; exact wellFormed
  | cons entry rest =>
    obtain ⟨key, node⟩ := entry
    cases key with
    | scalar name isPlain =>
      rw [entriesToJson?] at done
      obtain ⟨value, first, done⟩ := Option.bind_eq_some_iff.mp done
      exact wellFormed_of_entriesToJson?
        (wellFormed.insert (wellFormed_of_toJson? first) name) done
    | sequence items => simp [entriesToJson?] at done
    | mapping inner => simp [entriesToJson?] at done
end

end Node
end Yaml

namespace RuleBook

/-- No object in the book has two members of one name. -/
def WellFormed (book : RuleBook) : Prop :=
  ∀ name rules, book.entries.get? name = some rules → rules.WellFormed

/-- Whatever the prepare rules of a document are, its other entries are the book's. -/
theorem entries_of_ofJson {members : Entries Json} {book : RuleBook}
    (read : ofJson (.object members) = .ok book) :
    book.entries = (OrderedMap.ofEntries members).erase "prepare" := by
  rw [ofJson] at read
  cases found : Entries.get? members "prepare" with
  | none =>
    rw [found] at read
    cases read
    rfl
  | some rules =>
    cases decoded : rules.asMap PrepareRules.ofJson with
    | error cause => simp [found, decoded, bind, Except.bind] at read
    | ok prepare =>
      simp only [found, decoded, bind, Except.bind, pure, Except.pure, Except.ok.injEq] at read
      rw [← read]

theorem wellFormed_of_ofJson {document : Json} {book : RuleBook} (wellFormed : document.WellFormed)
    (read : ofJson document = .ok book) : book.WellFormed := by
  cases document with
  | null => cases read; intro name rules found; cases found
  | object members =>
    intro name rules found
    rw [entries_of_ofJson read, OrderedMap.get?_erase] at found
    by_cases prepare : "prepare" = name
    · rw [if_pos prepare] at found; cases found
    · rw [if_neg prepare, OrderedMap.get?_ofEntries] at found
      have member := List.mem_reverse.mp (Entries.mem_of_get? found)
      rw [Json.WellFormed] at wellFormed
      exact Json.wellFormedMembers_iff.mp wellFormed.2 _ member
  | _ => cases read

theorem wellFormed_of_ofText? {source : String} {book : RuleBook}
    (read : Readable.ofText? source = some book) : book.WellFormed := by
  obtain ⟨node, _, read⟩ := Option.bind_eq_some_iff.mp read
  unfold ofNode? at read
  split at read
  · cases read
    intro name rules found
    cases found
  · split at read
    · obtain ⟨document, decoded, read⟩ := Option.bind_eq_some_iff.mp read
      cases outcome : ofJson document with
      | error cause => rw [outcome] at read; cases read
      | ok book' =>
        rw [outcome] at read
        cases read
        exact wellFormed_of_ofJson (Yaml.Node.wellFormed_of_toJson? decoded) outcome
    · cases read

end RuleBook
end SchemaForms
