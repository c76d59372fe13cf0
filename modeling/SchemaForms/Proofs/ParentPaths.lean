import SchemaForms.Proofs.Paths
/-! Parents of a path. Taking them one after the other shortens the components by one name each
time, down to the empty path or the root. -/
namespace SchemaForms

theorem not_mem_of_mem_segments {separator : Char} {text part : List Char}
    (member : part ∈ segments separator text) : separator ∉ part := by
  induction text generalizing part with
  | nil =>
    rw [segments, List.mem_singleton] at member
    simp [member]
  | cons c rest ih =>
    rw [segments] at member
    split at member
    · rcases List.mem_cons.mp member with rfl | later
      · exact List.not_mem_nil
      · exact ih later
    · next other =>
      split at member
      · next empty => exact absurd empty (segments_ne_nil separator rest)
      · next first others parts_eq =>
        rw [parts_eq] at ih
        rcases List.mem_cons.mp member with rfl | later
        · rw [List.mem_cons, not_or]
          exact ⟨Ne.symm other, ih List.mem_cons_self⟩
        · exact ih (List.mem_cons_of_mem _ later)

theorem intercalate_segments (separator : Char) (text : List Char) :
    [separator].intercalate (segments separator text) = text := by
  induction text with
  | nil => rfl
  | cons c rest ih =>
    obtain ⟨first, others, parts_eq⟩ :=
      List.exists_cons_of_ne_nil (segments_ne_nil separator rest)
    rw [parts_eq] at ih
    rw [segments, parts_eq]
    by_cases separates : c = separator
    · rw [if_pos separates, List.intercalate_cons_cons, ih, separates]
      rfl
    · rw [if_neg separates]
      cases others with
      | nil => simpa using ih
      | cons second later =>
        rw [List.intercalate_cons_cons] at ih ⊢
        rw [← ih]
        rfl

theorem segments_intercalate {separator : Char} {parts : List (List Char)} (some_part : parts ≠ [])
    (plain : ∀ part ∈ parts, separator ∉ part) :
    segments separator ([separator].intercalate parts) = parts := by
  induction parts with
  | nil => exact absurd rfl some_part
  | cons first rest ih =>
    rw [List.forall_mem_cons] at plain
    cases rest with
    | nil => rw [List.intercalate_singleton, segments_of_not_mem plain.1]
    | cons second later =>
      rw [List.intercalate_cons_cons, List.append_assoc, List.singleton_append,
        segments_append_cons, segments_of_not_mem plain.1, ih (List.cons_ne_nil _ _) plain.2]
      rfl

namespace Path

theorem slash_not_mem_of_mem_parts {path : Path} {part : String} (member : part ∈ path.parts) :
    '/' ∉ part.toList := by
  obtain ⟨chars, segment, rfl⟩ := List.mem_map.mp member
  rw [String.toList_ofList]
  exact not_mem_of_mem_segments segment

theorem intercalate_parts (path : Path) : "/".intercalate path.parts = path.text := by
  have chars : path.parts.map String.toList = segments '/' path.text.toList := by
    rw [parts, List.map_map]
    exact List.map_id'' (fun _ => String.toList_ofList) _
  rw [← String.toList_inj, String.toList_intercalate, chars]
  exact intercalate_segments '/' path.text.toList

theorem parts_intercalate {names : List String} (some_name : names ≠ [])
    (plain : ∀ name ∈ names, '/' ∉ name.toList) : parts ⟨"/".intercalate names⟩ = names := by
  have slash : "/".toList = ['/'] := rfl
  rw [parts, String.toList_intercalate, slash, segments_intercalate, List.map_map]
  · exact List.map_id'' (fun _ => String.ofList_toList) _
  · simpa using some_name
  · simpa using plain

/-- An absolute path starts with an empty part. -/
theorem isAbsolute_iff_of_parts {path : Path} {first : String} {rest : List String}
    (parts_eq : path.parts = first :: rest) : path.isAbsolute = true ↔ first = "" ∧ rest ≠ [] := by
  unfold parts at parts_eq
  unfold isAbsolute
  cases chars : path.text.toList with
  | nil =>
    rw [chars] at parts_eq
    cases parts_eq
    simp
  | cons c others =>
    rw [chars, segments] at parts_eq
    rw [List.head?_cons, decide_eq_true_iff, Option.some.injEq]
    split at parts_eq
    · next is_slash =>
      cases parts_eq
      refine iff_of_true is_slash ⟨rfl, ?_⟩
      exact mt List.map_eq_nil_iff.mp (segments_ne_nil '/' others)
    · next other =>
      refine iff_of_false other ?_
      rintro ⟨rfl, _⟩
      split at parts_eq <;> simp at parts_eq

/-- The components are the start of a path and its other parts that name something. -/
theorem components_of_parts {path : Path} {first : String} {rest : List String}
    (parts_eq : path.parts = first :: rest) :
    path.components =
      (if first = "" then if rest = [] then [] else ["/"] else [first]) ++
        rest.filter fun part => !isVoid part := by
  have absolute := isAbsolute_iff_of_parts parts_eq
  have unfolded : path.components =
      (if path.isAbsolute then ["/"] else if first = "" then [] else [first]) ++
        rest.filter fun part => !isVoid part := by
    rw [components, parts_eq]
  rw [unfolded]
  by_cases empty : first = "" <;> by_cases single : rest = [] <;> simp [absolute, empty, single]

section
variable {first : String} {rest : List String}

theorem text_ofParts (named : ¬(first = "" ∧ rest = [])) :
    (ofParts first rest).text = "/".intercalate (first :: rest) := by
  cases rest with
  | nil =>
    have nonempty : first ≠ "" := fun empty => named ⟨empty, rfl⟩
    rw [ofParts, List.isEmpty_nil, if_pos rfl, if_neg nonempty, String.intercalate_singleton]
  | cons second later =>
    rw [ofParts, List.isEmpty_cons, if_neg Bool.false_ne_true, String.intercalate_cons_cons]

theorem parts_ofParts (plain : ∀ part ∈ first :: rest, '/' ∉ part.toList) :
    (ofParts first rest).parts = first :: if first = "" ∧ rest = [] then [""] else rest := by
  by_cases root : first = "" ∧ rest = []
  · rw [root.1, root.2]
    rfl
  · rw [if_neg root]
    have text_eq : ofParts first rest = ⟨"/".intercalate (first :: rest)⟩ :=
      congrArg Path.mk (text_ofParts root)
    rw [text_eq, parts_intercalate (List.cons_ne_nil _ _) plain]

theorem components_ofParts (plain : ∀ part ∈ first :: rest, '/' ∉ part.toList) :
    (ofParts first rest).components =
      (if first = "" then "/" else first) :: rest.filter fun part => !isVoid part := by
  rw [components_of_parts (parts_ofParts plain)]
  by_cases empty : first = "" <;> by_cases single : rest = [] <;> simp [empty, single, isVoid]

/-- Putting together fewer parts gives the beginning of a path. -/
theorem text_ofParts_begins {more : List String} (some_more : more ≠ []) :
    ∃ others, "/".intercalate (first :: rest ++ more) = (ofParts first rest).text ++ others := by
  have split := String.intercalate_append_of_ne_nil (s := "/") (List.cons_ne_nil first rest) some_more
  by_cases root : first = "" ∧ rest = []
  · refine ⟨"/".intercalate more, ?_⟩
    rw [split, root.1, root.2]
    rfl
  · refine ⟨"/" ++ "/".intercalate more, ?_⟩
    rw [split, text_ofParts root, String.append_assoc]

end

theorem parentsOf_dropWhile (first : String) (parts : List String) :
    parentsOf first (parts.dropWhile isVoid) = parentsOf first parts := by
  induction parts with
  | nil => rfl
  | cons part rest ih =>
    by_cases void : isVoid part = true
    · rw [List.dropWhile_cons_of_pos void, ih, parentsOf, if_pos void]
    · rw [List.dropWhile_cons_of_neg void]

theorem filter_dropWhile_isVoid (parts : List String) :
    ((parts.dropWhile isVoid).filter fun part => !isVoid part) =
      parts.filter fun part => !isVoid part := by
  induction parts with
  | nil => rfl
  | cons part rest ih =>
    by_cases void : isVoid part = true
    · rw [List.dropWhile_cons_of_pos void, ih, List.filter_cons_of_neg (by simp [void])]
    · rw [List.dropWhile_cons_of_neg void]

/-- A path that has no parent: the empty path, and the root however it is written. -/
def IsTop (path : Path) : Prop := path.text = "" ∨ path.components = ["/"]

/-- The parent has one name less, and it is the beginning of the path up to there, without what has
no meaning at its end. -/
structure IsParent (path parent : Path) : Prop where
  components : ∃ name, '/' ∉ name.toList ∧ path.components = parent.components ++ [name]
  text : ∃ rest, path.text = parent.text ++ rest
  trimmed : parent.text = "/" ∨
    ∀ part, parent.parts.tail.getLast? = some part → isVoid part = false

theorem parents_of_parts {path : Path} {first : String} {rest : List String}
    (parts_eq : path.parts = first :: rest) :
    path.parents = parentsOf first (rest.reverse.dropWhile isVoid) := by
  rw [parents, parts_eq, parentsOf_dropWhile]

/-- The parents of a parent are the other parents. -/
theorem parents_ofParts {first : String} {parts : List String}
    (plain : ∀ part ∈ first :: (parts.dropWhile isVoid).reverse, '/' ∉ part.toList) :
    (ofParts first (parts.dropWhile isVoid).reverse).parents = parentsOf first parts := by
  have parts_eq := parts_ofParts plain
  rw [← parentsOf_dropWhile]
  by_cases root : first = "" ∧ (parts.dropWhile isVoid).reverse = []
  · rw [if_pos root] at parts_eq
    have none_left := List.reverse_eq_nil_iff.mp root.2
    rw [parents_of_parts parts_eq, none_left, root.1]
    rfl
  · rw [if_neg root] at parts_eq
    rw [parents_of_parts parts_eq, List.reverse_reverse, parentsOf_dropWhile]

theorem isVoid_of_dropWhile {parts before : List String} {part : String}
    (kept : parts.dropWhile isVoid = part :: before) : isVoid part = false := by
  have stops := List.head?_dropWhile_not isVoid parts
  rwa [kept] at stops

/-- The parts up to the last one that names something, which is among those that are cut off. -/
theorem exists_more_of_dropWhile {rest before : List String} {part : String}
    (kept : rest.reverse.dropWhile isVoid = part :: before) :
    ∃ more, part ∈ more ∧ rest = (before.dropWhile isVoid).reverse ++ more := by
  have whole : rest.reverse = rest.reverse.takeWhile isVoid ++ part :: before := by
    rw [← kept, List.takeWhile_append_dropWhile]
  have front : before.reverse =
      (before.dropWhile isVoid).reverse ++ (before.takeWhile isVoid).reverse := by
    rw [← List.reverse_append, List.takeWhile_append_dropWhile]
  refine ⟨(before.takeWhile isVoid).reverse ++ part :: (rest.reverse.takeWhile isVoid).reverse,
    by simp, ?_⟩
  rw [← List.append_assoc, ← front, ← List.reverse_inj, List.reverse_append, List.reverse_cons,
    List.reverse_reverse, List.reverse_reverse, List.append_assoc, List.singleton_append]
  exact whole

theorem filter_of_dropWhile {rest before : List String} {part : String}
    (kept : rest.reverse.dropWhile isVoid = part :: before) :
    (rest.filter fun part => !isVoid part) =
      ((before.dropWhile isVoid).reverse.filter fun part => !isVoid part) ++ [part] := by
  have names := isVoid_of_dropWhile kept
  rw [List.filter_reverse, filter_dropWhile_isVoid, ← List.reverse_reverse rest,
    List.filter_reverse, ← filter_dropWhile_isVoid rest.reverse, kept,
    List.filter_cons_of_pos (by simp [names]), List.reverse_cons]

theorem isParent_ofParts {path : Path} {first part : String} {rest before : List String}
    (parts_eq : path.parts = first :: rest)
    (kept : rest.reverse.dropWhile isVoid = part :: before)
    (plain : ∀ name ∈ first :: (before.dropWhile isVoid).reverse, '/' ∉ name.toList) :
    path.IsParent (ofParts first (before.dropWhile isVoid).reverse) := by
  obtain ⟨more, part_more, rest_eq⟩ := exists_more_of_dropWhile kept
  have part_rest : part ∈ rest := rest_eq ▸ List.mem_append_right _ part_more
  refine ⟨⟨part, ?_, ?_⟩, ?_, ?_⟩
  · exact slash_not_mem_of_mem_parts (parts_eq ▸ List.mem_cons_of_mem first part_rest)
  · rw [components_of_parts parts_eq, filter_of_dropWhile kept, components_ofParts plain,
      if_neg (List.ne_nil_of_mem part_rest)]
    split <;> simp
  · rw [← intercalate_parts, parts_eq, rest_eq, ← List.cons_append]
    exact text_ofParts_begins (List.ne_nil_of_mem part_more)
  · by_cases root : first = "" ∧ (before.dropWhile isVoid).reverse = []
    · rw [root.1, root.2]
      exact .inl rfl
    · right
      intro last is_last
      rw [parts_ofParts plain, if_neg root, List.tail_cons, List.getLast?_reverse] at is_last
      obtain ⟨others, kept_eq⟩ := List.head?_eq_some_iff.mp is_last
      exact isVoid_of_dropWhile kept_eq

theorem isTop_of_parts {path : Path} {rest : List String} (parts_eq : path.parts = "" :: rest)
    (nothing : (rest.filter fun part => !isVoid part) = []) : path.IsTop := by
  by_cases single : rest = []
  · left
    rw [← intercalate_parts, parts_eq, single, String.intercalate_singleton]
  · right
    rw [components_of_parts parts_eq, nothing, if_pos rfl, if_neg single, List.append_nil]

/-- Nothing but the empty path is around a path of one component. -/
theorem isParent_empty {path : Path} {first : String} {rest : List String}
    (parts_eq : path.parts = first :: rest) (nonempty : first ≠ "")
    (nothing : (rest.filter fun part => !isVoid part) = []) : path.IsParent ⟨""⟩ where
  components := by
    refine ⟨first, slash_not_mem_of_mem_parts (parts_eq ▸ List.mem_cons_self), ?_⟩
    rw [components_of_parts parts_eq, if_neg nonempty, nothing]
    rfl
  text := ⟨path.text, String.empty_append.symm⟩
  trimmed := .inr nofun

/-- A path has no parent, or its parents are the first one and the parents of that. -/
theorem parents_cases (path : Path) :
    path.IsTop ∧ path.parents = [] ∨
      ∃ parent, path.IsParent parent ∧ path.parents = parent :: parent.parents := by
  obtain ⟨first, rest, parts_eq⟩ := exists_parts path
  have plain : ∀ part ∈ first :: rest, '/' ∉ part.toList := fun part member =>
    slash_not_mem_of_mem_parts (parts_eq ▸ member)
  have parents_eq := parents_of_parts parts_eq
  -- The last part that names something is cut off, with what is void before and after it.
  cases kept : rest.reverse.dropWhile isVoid with
  | nil =>
    rw [kept, parentsOf] at parents_eq
    have nothing : (rest.filter fun part => !isVoid part) = [] := by
      rw [← List.reverse_reverse rest, List.filter_reverse, ← filter_dropWhile_isVoid, kept]
      rfl
    by_cases empty : first = ""
    · subst empty
      exact .inl ⟨isTop_of_parts parts_eq nothing, parents_eq⟩
    · rw [if_neg empty] at parents_eq
      exact .inr ⟨⟨""⟩, isParent_empty parts_eq empty nothing, parents_eq⟩
  | cons part before =>
    obtain ⟨more, _, rest_eq⟩ := exists_more_of_dropWhile kept
    rw [rest_eq, ← List.cons_append] at plain
    have kept_plain := (List.forall_mem_append.mp plain).1
    rw [kept, parentsOf, isVoid_of_dropWhile kept, if_neg Bool.false_ne_true,
      ← parents_ofParts kept_plain] at parents_eq
    exact .inr ⟨_, isParent_ofParts parts_eq kept kept_plain, parents_eq⟩

/-- The components of an absolute path are those that start at the root. -/
theorem isAbsolute_iff_components {path : Path} :
    path.isAbsolute = true ↔ path.components.head? = some "/" := by
  obtain ⟨first, rest, parts_eq⟩ := exists_parts path
  have not_root : first ≠ "/" := by
    rintro rfl
    exact slash_not_mem_of_mem_parts (parts_eq ▸ List.mem_cons_self) (by decide)
  rw [isAbsolute_iff_of_parts parts_eq, components_of_parts parts_eq]
  by_cases empty : first = ""
  · by_cases single : rest = []
    · simp [empty, single]
    · simp [empty, single]
  · simp [empty, not_root]

theorem IsTop.cases {path : Path} (last : path.IsTop) :
    path = ⟨""⟩ ∨ path.isAbsolute = true ∧ path.components = ["/"] := by
  rcases last with empty | root
  · exact .inl (congrArg Path.mk empty)
  · refine .inr ⟨?_, root⟩
    rw [isAbsolute_iff_components, root]
    rfl

namespace IsParent
variable {path parent : Path}

theorem length_components (up : path.IsParent parent) :
    path.components.length = parent.components.length + 1 := by
  obtain ⟨name, _, components_eq⟩ := up.components
  rw [components_eq, List.length_append, List.length_singleton]

theorem isAbsolute (up : path.IsParent parent) : parent.isAbsolute = path.isAbsolute := by
  obtain ⟨name, plain, components_eq⟩ := up.components
  rw [Bool.eq_iff_iff, isAbsolute_iff_components, isAbsolute_iff_components, components_eq]
  cases parent.components with
  | nil =>
    refine iff_of_false nofun fun is => plain ?_
    cases is
    decide
  | cons start names => rfl

end IsParent

/-- The directories from a path up to one that has no parent. -/
inductive Climbs : Path → List Path → Prop where
  | top {path : Path} (last : path.IsTop) : Climbs path [path]
  | up {path parent : Path} {directories : List Path} (next : path.IsParent parent)
      (rest : Climbs parent directories) : Climbs path (path :: directories)

theorem climbs_ancestors (path : Path) : path.Climbs path.ancestors := by
  rcases parents_cases path with ⟨last, nothing⟩ | ⟨parent, up, parents_eq⟩
  · rw [ancestors, nothing]
    exact .top last
  · rw [ancestors, parents_eq]
    exact .up up (climbs_ancestors parent)
termination_by path.components.length
decreasing_by
  rw [up.length_components]
  exact Nat.lt_succ_self _

namespace Climbs
variable {path : Path} {directories : List Path}

theorem length_eq (climbs : path.Climbs directories) :
    directories.length = path.components.length + if path.isAbsolute then 0 else 1 := by
  induction climbs with
  | top last =>
    rcases last.cases with rfl | ⟨absolute, root⟩
    · rfl
    · rw [if_pos absolute, root]
      rfl
  | up next rest ih =>
    rw [List.length_cons, ih, next.isAbsolute, next.length_components, Nat.add_right_comm]

/-- A relative path leads up to the empty one, and an absolute path to the root. -/
theorem exists_last (climbs : path.Climbs directories) :
    ∃ last, directories.getLast? = some last ∧
      if path.isAbsolute then last.components = ["/"] else last = ⟨""⟩ := by
  induction climbs with
  | @top path last =>
    refine ⟨path, rfl, ?_⟩
    rcases last.cases with rfl | ⟨absolute, root⟩
    · rfl
    · rwa [if_pos absolute]
  | up next rest ih =>
    obtain ⟨last, is_last, reached⟩ := ih
    rw [next.isAbsolute] at reached
    exact ⟨last, by rw [List.getLast?_cons, is_last, Option.getD_some], reached⟩

end Climbs

end Path
end SchemaForms
