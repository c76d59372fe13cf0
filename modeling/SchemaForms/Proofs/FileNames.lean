import Mathlib.Data.List.Basic
import SchemaForms.Form.Document
import SchemaForms.Proofs.Paths
/-! File names of forms. The conversion of a definition's name keeps its slashes and brings in no
others, and what follows the converted name tells the files of one form from those of another. -/
namespace SchemaForms

namespace Text

theorem mem_intercalate_singleton {separator c : Char} (differs : c ≠ separator)
    {words : List (List Char)} :
    c ∈ [separator].intercalate words ↔ ∃ word ∈ words, c ∈ word := by
  induction words with
  | nil => simp
  | cons word rest ih =>
    cases rest with
    | nil => simp
    | cons second others =>
      rw [List.intercalate_cons_cons, List.append_assoc, List.mem_append, List.mem_append, ih,
        List.exists_mem_cons_iff]
      simp [differs]

theorem eq_of_ofNat_eq_slash {code : Nat} (slash : Char.ofNat code = '/') : code = 0x2F := by
  by_cases valid : code.isValidChar
  · rw [Char.ofNat, dif_pos valid] at slash
    exact congrArg Char.toNat slash
  · rw [Char.ofNat, dif_neg valid] at slash
    cases slash

/-- No lower case form is made of a slash, whose own lower case form it is. -/
theorem slash_mem_lowerChar_iff {c : Char} : '/' ∈ lowerChar c ↔ c = '/' := by
  have expansions_above : ∀ entry ∈ lowerExpansions, ∀ image ∈ entry.2, 0x2F < image := by decide
  have runs_above : ∀ run ∈ lowerRuns, 0x2F < run.2.2.2 := by decide +kernel
  constructor
  · intro member
    unfold lowerChar mapCase at member
    cases found : lowerExpansions.lookup c.toNat with
    | some images =>
      rw [found] at member
      obtain ⟨before, after, among, _⟩ := List.lookup_eq_some_iff.mp found
      obtain ⟨image, in_images, slash⟩ := List.mem_map.mp member
      have above := expansions_above (c.toNat, images) (by simp [among]) image in_images
      rw [eq_of_ofNat_eq_slash slash] at above
      exact absurd above (lt_irrefl _)
    | none =>
      rw [found] at member
      cases mapped : lowerRuns.findSome? (CaseRun.image? · c.toNat) with
      | none =>
        rw [mapped] at member
        exact (List.mem_singleton.mp member).symm
      | some image =>
        obtain ⟨⟨first, last, stride, lowest⟩, among, image_eq⟩ :=
          List.exists_of_findSome?_eq_some mapped
        have above : 0x2F < lowest := runs_above _ among
        have slash : image = 0x2F := by
          rw [mapped] at member
          exact eq_of_ofNat_eq_slash (List.mem_singleton.mp member).symm
        simp only [CaseRun.image?, Option.ite_none_right_eq_some, Option.some.injEq] at image_eq
        omega
  · rintro rfl
    decide +kernel

theorem slash_mem_lowerFrom_iff {before text : List Char} :
    '/' ∈ lowerFrom before text ↔ '/' ∈ text := by
  induction text generalizing before with
  | nil => rfl
  | cons c rest ih =>
    rw [lowerFrom, List.mem_append, ih, List.mem_cons]
    refine or_congr_left ?_
    split
    · next sigma =>
      subst sigma
      split <;> decide
    · rw [slash_mem_lowerChar_iff, eq_comm]

theorem clusterKind_eq_delimiter_iff {cluster : Cluster} :
    clusterKind cluster = .delimiter ↔ cluster = ['_'] ∨ cluster = ['-'] ∨ cluster = [' '] := by
  unfold clusterKind
  by_cases delimits : cluster = ['_'] ∨ cluster = ['-'] ∨ cluster = [' ']
  · simp [delimits]
  · rw [if_neg delimits]
    refine iff_of_false ?_ delimits
    split_ifs <;> decide

/-- Only delimiters get lost between words, and a slash is none. -/
theorem slash_mem_wordsFrom_iff {word : List Char} {clusters : List Cluster} :
    (∃ part ∈ wordsFrom word clusters, '/' ∈ part) ↔
      '/' ∈ word ∨ ∃ cluster ∈ clusters, '/' ∈ cluster := by
  induction clusters generalizing word with
  | nil => simp [wordsFrom]
  | cons cluster rest ih =>
    rw [wordsFrom, List.exists_mem_cons_iff]
    split
    · next is_delimiter =>
      have dropped : '/' ∉ cluster := by
        rcases clusterKind_eq_delimiter_iff.mp is_delimiter with rfl | rfl | rfl <;> decide
      rw [List.exists_mem_cons_iff, ih]
      simp [dropped]
    · split
      · rw [List.exists_mem_cons_iff, ih, List.mem_append]
        simp [or_assoc]
      · rw [ih, List.mem_append, or_assoc]

theorem slash_mem_kebabCase_iff {text : String} :
    '/' ∈ (kebabCase text).toList ↔ '/' ∈ text.toList := by
  rw [kebabCase, String.toList_ofList, mem_intercalate_singleton (by decide)]
  simp only [List.mem_map, exists_exists_and_eq_and, lower, slash_mem_lowerFrom_iff]
  rw [words, slash_mem_wordsFrom_iff, ← List.mem_flatten, flatten_clusters]
  simp

end Text

namespace Operation

/-- What follows the name of a definition in the name of the file of its form. -/
def formEnding (operation : Operation) : String := "-" ++ operation.name ++ ".json"

def localesEnding (operation : Operation) : String := "-" ++ operation.name ++ "-locales.json"

def endings (operation : Operation) : List String := [operation.formEnding, operation.localesEnding]

theorem formEnding_mem (operation : Operation) : operation.formEnding ∈ operation.endings :=
  List.mem_cons_self

theorem localesEnding_mem (operation : Operation) : operation.localesEnding ∈ operation.endings :=
  List.mem_cons_of_mem _ List.mem_cons_self

theorem formEnding_ne_localesEnding (operation : Operation) :
    operation.formEnding ≠ operation.localesEnding := by
  cases operation <;> decide +kernel

theorem slash_not_mem_ending {operation : Operation} {ending : String}
    (member : ending ∈ operation.endings) : '/' ∉ ending.toList := by
  have plain : ∀ operation : Operation, ∀ ending ∈ operation.endings, '/' ∉ ending.toList := by
    intro operation
    cases operation <;> decide +kernel
  exact plain operation ending member

theorem length_ending {operation : Operation} {ending : String}
    (member : ending ∈ operation.endings) : 2 < ending.length := by
  have long : ∀ operation : Operation, ∀ ending ∈ operation.endings, 2 < ending.length := by
    intro operation
    cases operation <;> decide +kernel
  exact long operation ending member

/-- No ending ends with another one. -/
theorem eq_of_ending_suffix {first second : Operation} {ending other : String}
    (member : ending ∈ first.endings) (other_member : other ∈ second.endings)
    (suffix : ending.toList <:+ other.toList) : first = second ∧ ending = other := by
  have apart : ∀ first second : Operation, ∀ ending ∈ first.endings, ∀ other ∈ second.endings,
      ending.toList <:+ other.toList → first = second ∧ ending = other := by
    intro first second
    cases first <;> cases second <;> decide +kernel
  exact apart first second ending member other other_member suffix

/-- A text with an ending tells what the text was and which ending follows it. -/
theorem append_ending_inj {first second : Operation} {text text' ending other : String}
    (member : ending ∈ first.endings) (other_member : other ∈ second.endings)
    (same : text ++ ending = text' ++ other) :
    first = second ∧ ending = other ∧ text = text' := by
  have ends_with : ending.toList <:+ (text ++ ending).toList :=
    ⟨text.toList, String.toList_append.symm⟩
  have ends_with_other : other.toList <:+ (text ++ ending).toList :=
    ⟨text'.toList, by rw [same, String.toList_append]⟩
  have endings_same : first = second ∧ ending = other := by
    rcases List.suffix_or_suffix_of_suffix ends_with ends_with_other with suffix | suffix
    · exact eq_of_ending_suffix member other_member suffix
    · obtain ⟨operations, endings⟩ := eq_of_ending_suffix other_member member suffix
      exact ⟨operations.symm, endings.symm⟩
  obtain ⟨rfl, rfl⟩ := endings_same
  exact ⟨rfl, rfl, (String.append_left_inj _).mp same⟩

theorem isNormal_append_ending {operation : Operation} {text ending : String}
    (member : ending ∈ operation.endings) (plain : '/' ∉ text.toList) :
    Path.IsNormal (text ++ ending) := by
  have long := length_ending member
  have differs {name : String} (short : name.length ≤ 2) : text ++ ending ≠ name := by
    rintro rfl
    rw [String.length_append] at short
    omega
  refine ⟨?_, differs (by decide), differs (by decide), differs (by decide)⟩
  rw [String.toList_append, List.mem_append, not_or]
  exact ⟨plain, slash_not_mem_ending member⟩

end Operation

namespace GeneratedForm
variable {form : GeneratedForm} {file : String}

theorem formFile_eq (form : GeneratedForm) :
    form.formFile = Text.kebabCase form.definition ++ form.operation.formEnding := by
  simp only [formFile, fileStem, Operation.formEnding, String.append_assoc]

theorem localesFile_eq (form : GeneratedForm) :
    form.localesFile = Text.kebabCase form.definition ++ form.operation.localesEnding := by
  simp only [localesFile, fileStem, Operation.localesEnding, String.append_assoc]

theorem formFile_mem (form : GeneratedForm) : form.formFile ∈ [form.formFile, form.localesFile] :=
  List.mem_cons_self

theorem localesFile_mem (form : GeneratedForm) :
    form.localesFile ∈ [form.formFile, form.localesFile] :=
  List.mem_cons_of_mem _ List.mem_cons_self

theorem exists_ending_of_file (member : file ∈ [form.formFile, form.localesFile]) :
    ∃ ending ∈ form.operation.endings, file = Text.kebabCase form.definition ++ ending := by
  rcases List.mem_pair.mp member with rfl | rfl
  · exact ⟨_, form.operation.formEnding_mem, form.formFile_eq⟩
  · exact ⟨_, form.operation.localesEnding_mem, form.localesFile_eq⟩

theorem folder_file (member : file ∈ [form.formFile, form.localesFile]) :
    Path.folder file = Path.folder (Text.kebabCase form.definition) := by
  obtain ⟨ending, among, rfl⟩ := exists_ending_of_file member
  exact Path.folder_append (Operation.slash_not_mem_ending among)

theorem isNormal_lastPart_file (member : file ∈ [form.formFile, form.localesFile]) :
    Path.IsNormal (Path.lastPart file) := by
  obtain ⟨ending, among, rfl⟩ := exists_ending_of_file member
  rw [Path.lastPart_append (Operation.slash_not_mem_ending among)]
  exact Operation.isNormal_append_ending among (Path.slash_not_mem_lastPart _)

/-- A file has a single name just when its definition has no slash in its name. -/
theorem isNormal_file_iff (member : file ∈ [form.formFile, form.localesFile]) :
    Path.IsNormal file ↔ '/' ∉ form.definition.toList := by
  obtain ⟨ending, among, rfl⟩ := exists_ending_of_file member
  rw [← Text.slash_mem_kebabCase_iff]
  constructor
  · intro normal slash
    apply normal.1
    rw [String.toList_append]
    exact List.mem_append_left _ slash
  · exact Operation.isNormal_append_ending among

end GeneratedForm
end SchemaForms
