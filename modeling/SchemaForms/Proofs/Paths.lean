import Mathlib.Data.List.TakeWhile
import SchemaForms.FileSystem
/-! Paths part by part. A name is joined to a directory by its folder first, and then by its last
part, which is one component more. -/
namespace SchemaForms

theorem segments_ne_nil (separator : Char) (text : List Char) : segments separator text ≠ [] := by
  cases text with
  | nil => exact List.cons_ne_nil _ _
  | cons c rest =>
    unfold segments
    split
    · exact List.cons_ne_nil _ _
    · split <;> exact List.cons_ne_nil _ _

theorem segments_of_not_mem {separator : Char} {text : List Char} (absent : separator ∉ text) :
    segments separator text = [text] := by
  induction text with
  | nil => rfl
  | cons c rest ih =>
    rw [List.mem_cons, not_or] at absent
    rw [segments, if_neg (Ne.symm absent.1), ih absent.2]

theorem segments_append_cons (separator : Char) (first second : List Char) :
    segments separator (first ++ separator :: second) =
      segments separator first ++ segments separator second := by
  induction first with
  | nil => simp [segments]
  | cons c rest ih =>
    rw [List.cons_append, segments, ih, segments]
    by_cases separates : c = separator
    · rw [if_pos separates, if_pos separates, List.cons_append]
    · rw [if_neg separates, if_neg separates]
      cases parts : segments separator rest with
      | nil => exact absurd parts (segments_ne_nil separator rest)
      | cons part others => rfl

namespace Path

/-- The components of a path: the root of an absolute one, a dot in front, and the parts that name
something. -/
def components (path : Path) : List String :=
  match path.parts with
  | [] => []
  | first :: rest =>
    (if path.isAbsolute then ["/"] else if first = "" then [] else [first]) ++
      rest.filter fun part => !isVoid part

/-- A single name, which leads neither to a directory itself nor out of it. -/
def IsNormal (name : String) : Prop :=
  '/' ∉ name.toList ∧ name ≠ "" ∧ name ≠ "." ∧ name ≠ ".."

instance (name : String) : Decidable (IsNormal name) := inferInstanceAs (Decidable (_ ∧ _))

/-- The path is that of the directory with one name more. -/
def IsChildOf (path directory : Path) : Prop :=
  ∃ name, IsNormal name ∧ path.components = directory.components ++ [name]

/-- A text to which a name can be added as one more part. -/
def IsOpen (text : String) : Prop := text = "" ∨ ∃ before, text = before ++ "/"

/-- The part of a name up to its last slash. -/
def folder (name : String) : String :=
  String.ofList (name.toList.reverse.dropWhile (· ≠ '/')).reverse

/-- The part of a name after its last slash. -/
def lastPart (name : String) : String :=
  String.ofList (name.toList.reverse.takeWhile (· ≠ '/')).reverse

theorem folder_append_lastPart (name : String) : folder name ++ lastPart name = name := by
  rw [folder, lastPart, ← String.ofList_append, ← List.reverse_append,
    List.takeWhile_append_dropWhile, List.reverse_reverse, String.ofList_toList]

theorem slash_not_mem_lastPart (name : String) : '/' ∉ (lastPart name).toList := by
  rw [lastPart, String.toList_ofList, List.mem_reverse]
  intro member
  simpa using List.mem_takeWhile_imp member

theorem isOpen_folder (name : String) : IsOpen (folder name) := by
  unfold IsOpen folder
  cases rest : name.toList.reverse.dropWhile (· ≠ '/') with
  | nil => exact .inl rfl
  | cons c before =>
    have is_slash : c = '/' := by
      have stops := List.head?_dropWhile_not (· ≠ '/') name.toList.reverse
      rw [rest] at stops
      simpa using stops
    subst is_slash
    exact .inr ⟨String.ofList before.reverse, by rw [List.reverse_cons, String.ofList_append]⟩

theorem reverse_passes {name : String} (plain : '/' ∉ name.toList) :
    ∀ c ∈ name.toList.reverse, decide (c ≠ '/') = true := by
  intro c member
  rw [decide_eq_true_iff]
  rintro rfl
  exact plain (List.mem_reverse.mp member)

/-- An ending without a slash does not belong to the folder. -/
theorem folder_append {name ending : String} (plain : '/' ∉ ending.toList) :
    folder (name ++ ending) = folder name := by
  rw [folder, String.toList_append, List.reverse_append,
    List.dropWhile_append_of_pos (reverse_passes plain), folder]

theorem lastPart_append {name ending : String} (plain : '/' ∉ ending.toList) :
    lastPart (name ++ ending) = lastPart name ++ ending := by
  rw [lastPart, String.toList_append, List.reverse_append,
    List.takeWhile_append_of_pos (reverse_passes plain), List.reverse_append,
    List.reverse_reverse, String.ofList_append, String.ofList_toList, lastPart]

theorem lastPart_of_not_mem {name : String} (plain : '/' ∉ name.toList) :
    lastPart name = name := by
  have unfolded : lastPart ("" ++ name) = lastPart "" ++ name := lastPart_append plain
  have nothing : lastPart "" = "" := rfl
  rwa [String.empty_append, nothing, String.empty_append] at unfolded

theorem folder_eq_empty_iff {name : String} : folder name = "" ↔ '/' ∉ name.toList := by
  constructor
  · intro empty
    have split := folder_append_lastPart name
    rw [empty, String.empty_append] at split
    exact split ▸ slash_not_mem_lastPart name
  · intro plain
    have unfolded : folder ("" ++ name) = folder "" := folder_append plain
    rwa [String.empty_append] at unfolded

variable {text file : String}

theorem isAbsolute_append (opened : IsOpen text) (plain : '/' ∉ file.toList) :
    isAbsolute ⟨text ++ file⟩ = isAbsolute ⟨text⟩ := by
  unfold isAbsolute
  rcases opened with rfl | ⟨before, rfl⟩
  · rw [String.empty_append]
    cases chars : file.toList with
    | nil => rfl
    | cons c rest =>
      rw [chars, List.mem_cons, not_or] at plain
      simpa using Ne.symm plain.1
  · cases chars : before.toList <;> simp [chars]

theorem parts_append (opened : IsOpen text) (plain : '/' ∉ file.toList) :
    parts ⟨text ++ file⟩ = (parts ⟨text⟩).dropLast ++ [file] := by
  unfold parts
  rcases opened with rfl | ⟨before, rfl⟩
  · simp [segments_of_not_mem plain, segments]
  · have full : (before ++ "/" ++ file).toList = before.toList ++ '/' :: file.toList := by simp
    have bare : (before ++ "/").toList = before.toList ++ '/' :: [] := by simp
    rw [full, bare, segments_append_cons, segments_append_cons, segments_of_not_mem plain,
      segments, List.map_append, List.map_append]
    simp

/-- A name is joined after its folder. -/
theorem join_append (directory : Path) (opened : IsOpen text) (plain : '/' ∉ file.toList) :
    directory.join ⟨text ++ file⟩ = ⟨(directory.join ⟨text⟩).text ++ file⟩ := by
  unfold join
  rw [isAbsolute_append opened plain]
  split
  · rfl
  · split <;> simp only [String.append_assoc]

/-- A path to a name leads to its folder first. -/
theorem join_eq_append (directory : Path) (name : String) :
    directory.join ⟨name⟩ = ⟨(directory.join ⟨folder name⟩).text ++ lastPart name⟩ := by
  rw [← join_append directory (isOpen_folder name) (slash_not_mem_lastPart name),
    folder_append_lastPart]

theorem isOpen_join (directory : Path) (opened : IsOpen text) :
    IsOpen (directory.join ⟨text⟩).text := by
  unfold join
  split
  · exact opened
  · rcases opened with rfl | ⟨before, rfl⟩
    · split
      · next slash_last =>
        obtain ⟨before, chars⟩ := List.getLast?_eq_some_iff.mp slash_last
        refine .inr ⟨String.ofList before, ?_⟩
        rw [String.append_empty, ← String.ofList_toList (s := directory.text), chars,
          String.ofList_append]
      · exact .inr ⟨directory.text, String.append_empty⟩
    · split
      · exact .inr ⟨directory.text ++ before, (String.append_assoc ..).symm⟩
      · exact .inr ⟨directory.text ++ "/" ++ before, (String.append_assoc ..).symm⟩

theorem exists_parts (path : Path) : ∃ first rest, path.parts = first :: rest :=
  List.exists_cons_of_ne_nil fun empty =>
    segments_ne_nil '/' path.text.toList (List.map_eq_nil_iff.mp empty)

theorem parts_slash (text : String) : parts ⟨text ++ "/"⟩ = parts ⟨text⟩ ++ [""] := by
  have chars : (text ++ "/").toList = text.toList ++ '/' :: [] := by simp
  unfold parts
  rw [chars, segments_append_cons, List.map_append]
  rfl

theorem components_append (opened : IsOpen text) (normal : IsNormal file) :
    components ⟨text ++ file⟩ = components ⟨text⟩ ++ [file] := by
  obtain ⟨plain, nonempty, not_dot, _⟩ := normal
  have names : isVoid file = false := by simp [isVoid, nonempty, not_dot]
  have void : isVoid "" = true := rfl
  unfold components
  rw [parts_append opened plain, isAbsolute_append opened plain]
  rcases opened with rfl | ⟨before, rfl⟩
  · simp [parts, segments, isAbsolute, nonempty]
  · rw [parts_slash, List.dropLast_concat]
    obtain ⟨first, rest, before_parts⟩ := exists_parts ⟨before⟩
    simp [before_parts, names, void]

theorem isAbsolute_slash (nonempty : text ≠ "") :
    isAbsolute ⟨text ++ "/"⟩ = isAbsolute ⟨text⟩ := by
  unfold isAbsolute
  cases chars : text.toList with
  | nil => exact absurd (String.toList_eq_nil_iff.mp chars) nonempty
  | cons c rest => simp [chars]

/-- A slash at the end of a directory has no meaning. -/
theorem components_slash (nonempty : text ≠ "") :
    components ⟨text ++ "/"⟩ = components ⟨text⟩ := by
  have void : isVoid "" = true := rfl
  unfold components
  rw [parts_slash, isAbsolute_slash nonempty]
  obtain ⟨first, rest, text_parts⟩ := exists_parts ⟨text⟩
  simp [text_parts, void]

theorem components_join_empty (directory : Path) :
    (directory.join ⟨""⟩).components = directory.components := by
  have relative : isAbsolute ⟨""⟩ = false := rfl
  unfold join
  rw [relative, Bool.false_or]
  split
  · next empty =>
    have empty_eq : directory = ⟨""⟩ := congrArg Path.mk (of_decide_eq_true empty)
    rw [empty_eq]
  · next nonempty =>
    simp only [String.append_empty]
    split
    · rfl
    · exact components_slash (by simpa using nonempty)

end Path
end SchemaForms
