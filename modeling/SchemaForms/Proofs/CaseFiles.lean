import Mathlib.Data.List.Nodup
import Mathlib.Data.String.Basic
import SchemaForms.Fixture.Suite
import SchemaForms.Yaml.Documents
import SchemaForms.Proofs.FixtureVerdicts
/-! Runs over the fixtures of a directory. Whatever directories are nested in it and whatever they are
called, every fixture file whose name is asked for is checked once, in the order of the paths, and
ends up either among the passes or among the failures. -/
namespace SchemaForms

namespace FileTree

mutual
/-- No directory lists a name twice. -/
def NamesDistinct : FileTree → Prop
  | .file _ => True
  | .directory entries => (Entries.keys entries).Nodup ∧ NamesDistinctIn entries

def NamesDistinctIn : List (String × FileTree) → Prop
  | [] => True
  | (_, node) :: rest => node.NamesDistinct ∧ NamesDistinctIn rest
end

mutual
/-- The files that are listed are those that stand somewhere below. -/
theorem mem_files_iff {tree : FileTree} (distinct : tree.NamesDistinct) {start location : Location}
    {contents : String} :
    (location, contents) ∈ tree.files start ↔
      ∃ below, location = start ++ below ∧ tree.find? below = some (.file contents) := by
  cases tree with
  | file text =>
    rw [files, List.mem_singleton, Prod.mk.injEq]
    constructor
    · rintro ⟨rfl, rfl⟩
      exact ⟨[], (List.append_nil _).symm, rfl⟩
    · rintro ⟨below, rfl, found⟩
      cases below with
      | nil =>
        cases found
        exact ⟨List.append_nil _, rfl⟩
      | cons name rest => cases found
  | directory listed =>
    rw [NamesDistinct] at distinct
    rw [files, mem_filesOf_iff distinct.1 distinct.2]
    constructor
    · rintro ⟨name, below, rfl, found⟩
      exact ⟨name :: below, rfl, found⟩
    · rintro ⟨below, rfl, found⟩
      cases below with
      | nil => cases found
      | cons name rest => exact ⟨name, rest, rfl, found⟩

theorem mem_filesOf_iff {listed : List (String × FileTree)} (nodup : (Entries.keys listed).Nodup)
    (distinct : NamesDistinctIn listed) {start location : Location} {contents : String} :
    (location, contents) ∈ filesOf start listed ↔
      ∃ name below, location = start ++ name :: below ∧
        (Entries.get? listed name).bind (find? · below) = some (.file contents) := by
  cases listed with
  | nil => exact iff_of_false nofun fun ⟨_, _, _, found⟩ => nomatch found
  | cons entry rest =>
    obtain ⟨name, node⟩ := entry
    rw [NamesDistinctIn] at distinct
    rw [Entries.keys_cons, List.nodup_cons] at nodup
    rw [filesOf, List.mem_append, mem_files_iff distinct.1, mem_filesOf_iff nodup.2 distinct.2]
    constructor
    · rintro (⟨below, rfl, found⟩ | ⟨other, below, rfl, found⟩)
      · refine ⟨name, below, by simp, ?_⟩
        rw [Entries.get?_cons, if_pos rfl]
        exact found
      · obtain ⟨child, listed_later, _⟩ := Option.bind_eq_some_iff.mp found
        have differs : name ≠ other := by
          rintro rfl
          exact nodup.1 (Entries.mem_keys_of_mem (Entries.mem_of_get? listed_later))
        refine ⟨other, below, rfl, ?_⟩
        rw [Entries.get?_cons, if_neg differs]
        exact found
    · rintro ⟨other, below, rfl, found⟩
      rw [Entries.get?_cons] at found
      by_cases same : name = other
      · subst same
        rw [if_pos rfl] at found
        exact .inl ⟨below, by simp, found⟩
      · rw [if_neg same] at found
        exact .inr ⟨other, below, rfl, found⟩
end

mutual
/-- No location is listed twice. -/
theorem nodup_files {tree : FileTree} (distinct : tree.NamesDistinct) (start : Location) :
    ((tree.files start).map Prod.fst).Nodup := by
  cases tree with
  | file contents => exact List.nodup_singleton _
  | directory listed =>
    rw [NamesDistinct] at distinct
    rw [files]
    exact nodup_filesOf distinct.1 distinct.2 start

theorem nodup_filesOf {listed : List (String × FileTree)} (nodup : (Entries.keys listed).Nodup)
    (distinct : NamesDistinctIn listed) (start : Location) :
    ((filesOf start listed).map Prod.fst).Nodup := by
  cases listed with
  | nil => exact List.nodup_nil
  | cons entry rest =>
    obtain ⟨name, node⟩ := entry
    rw [NamesDistinctIn] at distinct
    rw [Entries.keys_cons, List.nodup_cons] at nodup
    rw [filesOf, List.map_append]
    refine (nodup_files distinct.1 _).append (nodup_filesOf nodup.2 distinct.2 start) ?_
    intro location among later
    obtain ⟨⟨_, contents⟩, first, rfl⟩ := List.mem_map.mp among
    obtain ⟨⟨_, others⟩, second, same⟩ := List.mem_map.mp later
    obtain ⟨below, location_eq, _⟩ := (mem_files_iff distinct.1).mp first
    obtain ⟨other, below', other_eq, found⟩ := (mem_filesOf_iff nodup.2 distinct.2).mp second
    obtain ⟨child, listed_later, _⟩ := Option.bind_eq_some_iff.mp found
    dsimp only at same
    rw [other_eq, location_eq, List.append_assoc, List.append_cancel_left_eq] at same
    obtain ⟨rfl, _⟩ := List.cons.inj same
    exact nodup.1 (Entries.mem_keys_of_mem (Entries.mem_of_get? listed_later))
end

end FileTree

namespace CaseFile

/-- Locations are sorted in the order of lists of names. -/
theorem locationLe_iff {first second : Location} :
    locationLe first second = true ↔ first ≤ second := by
  rw [le_iff_eq_or_lt]
  induction first generalizing second with
  | nil =>
    cases second with
    | nil => exact iff_of_true rfl (.inl rfl)
    | cons name rest => exact iff_of_true rfl (.inr (List.nil_lt_cons name rest))
  | cons name rest ih =>
    cases second with
    | nil => exact iff_of_false nofun (by simp)
    | cons other others =>
      rw [locationLe, List.cons_lt_cons_iff, List.cons.injEq]
      by_cases same : name = other
      · subst same
        simp [ih]
      · simp [same]

theorem locationLe_trans (first second third : Location × String)
    (below : locationLe first.1 second.1 = true) (above : locationLe second.1 third.1 = true) :
    locationLe first.1 third.1 = true :=
  locationLe_iff.mpr ((locationLe_iff.mp below).trans (locationLe_iff.mp above))

theorem locationLe_total (first second : Location × String) :
    (locationLe first.1 second.1 || locationLe second.1 first.1) = true := by
  rw [Bool.or_eq_true, locationLe_iff, locationLe_iff]
  exact le_total _ _

theorem hasEnding_iff {name : String} :
    hasEnding name = true ↔ ∃ stem, stem ≠ "" ∧ name = stem ++ ".yaml" := by
  have ending_eq : ending = (".yaml" : String).toList := rfl
  rw [hasEnding, Bool.and_eq_true, List.isSuffixOf_iff_suffix, decide_eq_true_iff]
  constructor
  · rintro ⟨⟨before, name_eq⟩, long⟩
    refine ⟨String.ofList before, ?_, ?_⟩
    · intro empty
      rw [String.ofList_eq_empty_iff] at empty
      rw [empty, List.nil_append] at name_eq
      rw [← String.length_toList, ← name_eq] at long
      exact Nat.lt_irrefl _ long
    · rw [← String.toList_inj, String.toList_append, String.toList_ofList, ← name_eq, ending_eq]
  · rintro ⟨stem, nonempty, rfl⟩
    refine ⟨⟨stem.toList, by rw [String.toList_append, ending_eq]⟩, ?_⟩
    have positive : 0 < stem.length := by
      rw [Nat.pos_iff_ne_zero, ne_eq, String.length_eq_zero_iff]
      exact nonempty
    rw [String.length_append, ending_eq, String.length_toList]
    omega

theorem withoutEnding_append (stem : String) :
    withoutEnding (stem ++ ".yaml") = if stem = "." then ".." else stem := by
  have long : (stem ++ ".yaml").length - ending.length = stem.toList.length := by
    rw [String.length_append, String.length_toList]
    exact Nat.add_sub_cancel _ _
  rw [withoutEnding, long, String.toList_append, List.take_left, String.ofList_toList]

/-- The path of a file without its ending is its name. -/
def HasName (file : CaseFile) (name : String) : Prop :=
  ∃ folder stem, stem ≠ "" ∧ file.location = folder ++ [stem ++ ".yaml"] ∧
    name = "/".intercalate (folder ++ [if stem = "." then ".." else stem])

theorem hasName_iff {file : CaseFile} {name : String} :
    file.HasName name ↔ isCase file.location = true ∧ name = file.name := by
  have name_eq {folder : Location} {stem : String}
      (location_eq : file.location = folder ++ [stem ++ ".yaml"]) :
      file.name = "/".intercalate (folder ++ [if stem = "." then ".." else stem]) := by
    rw [CaseFile.name, location_eq, List.dropLast_concat, List.getLast?_concat, Option.map_some,
      withoutEnding_append, Option.toList_some]
  constructor
  · rintro ⟨folder, stem, nonempty, location_eq, rfl⟩
    refine ⟨?_, (name_eq location_eq).symm⟩
    rw [isCase, location_eq, List.getLast?_concat, Option.any_some]
    exact hasEnding_iff.mpr ⟨stem, nonempty, rfl⟩
  · rintro ⟨ends, rfl⟩
    rcases List.eq_nil_or_concat' file.location with nowhere | ⟨folder, last, location_eq⟩
    · rw [nowhere] at ends
      cases ends
    · rw [isCase, location_eq, List.getLast?_concat, Option.any_some] at ends
      obtain ⟨stem, nonempty, rfl⟩ := hasEnding_iff.mp ends
      exact ⟨folder, stem, nonempty, location_eq, name_eq location_eq⟩

/-- The file stands in the tree and its name is asked for. -/
structure Selects (tree : FileTree) (filter : Option String) (file : CaseFile) : Prop where
  there : tree.find? file.location = some (.file file.source)
  named : ∃ name, file.HasName name ∧ ∀ part, filter = some part → Occurs part name

theorem isSelected_iff {filter : Option String} {file : CaseFile} :
    file.isSelected filter = true ↔ ∀ part, filter = some part → Occurs part file.name := by
  cases filter with
  | none => exact iff_of_true rfl nofun
  | some part =>
    rw [isSelected, Option.all_some, containsText_iff_occurs]
    simp

theorem mem_ofTree_iff {tree : FileTree} (distinct : tree.NamesDistinct) {file : CaseFile} :
    file ∈ ofTree tree ↔
      tree.find? file.location = some (.file file.source) ∧ isCase file.location = true := by
  rw [ofTree, List.mem_map]
  constructor
  · rintro ⟨⟨location, contents⟩, listed, rfl⟩
    rw [List.mem_mergeSort, List.mem_filter, FileTree.mem_files_iff distinct] at listed
    obtain ⟨⟨below, rfl, found⟩, ends⟩ := listed
    exact ⟨found, ends⟩
  · rintro ⟨found, ends⟩
    refine ⟨(file.location, file.source), ?_, rfl⟩
    rw [List.mem_mergeSort, List.mem_filter, FileTree.mem_files_iff distinct]
    exact ⟨⟨file.location, rfl, found⟩, ends⟩

/-- The fixture files of a tree ascend, so that none of them comes twice. -/
theorem ofTree_ascending {tree : FileTree} (distinct : tree.NamesDistinct) :
    (ofTree tree).Pairwise fun first second => first.location < second.location := by
  let listed := (tree.files []).filter fun file => isCase file.1
  let sorted := listed.mergeSort fun first second => locationLe first.1 second.1
  have ascends : sorted.Pairwise fun first second => locationLe first.1 second.1 = true :=
    List.pairwise_mergeSort locationLe_trans locationLe_total listed
  have listed_once : listed.Pairwise fun first second => first.1 ≠ second.1 := by
    have nodup := FileTree.nodup_files distinct []
    rw [List.Nodup, List.pairwise_map] at nodup
    exact nodup.sublist List.filter_sublist
  have once : sorted.Pairwise fun first second => first.1 ≠ second.1 :=
    ((List.mergeSort_perm listed _).pairwise_iff fun differs => Ne.symm differs).mpr listed_once
  rw [ofTree, List.pairwise_map]
  refine (ascends.and once).imp fun ⟨ordered, differs⟩ => ?_
  exact lt_of_le_of_ne (locationLe_iff.mp ordered) differs

section
variable [Readable Fixture]

/-- Why a file does not pass. -/
inductive Fails (file : CaseFile) : CaseFault → Prop where
  | unreadable (unread : (Readable.ofText? file.source : Option Fixture) = none) :
      Fails file .unreadable
  | failed {fixture : Fixture} {fault : FixtureFault}
      (read : Readable.ofText? file.source = some fixture)
      (fault_eq : fixture.check = .error fault) : Fails file (.failed fault)

/-- The fixture of the file can be read and passes. -/
def Passes (file : CaseFile) : Prop :=
  ∃ fixture : Fixture, Readable.ofText? file.source = some fixture ∧ fixture.check = .ok ()

theorem check_ok_iff_passes {file : CaseFile} : file.check = .ok () ↔ file.Passes := by
  unfold check Passes
  cases (Readable.ofText? file.source : Option Fixture) with
  | none => exact iff_of_false nofun fun ⟨_, read, _⟩ => nomatch read
  | some fixture =>
    simp only [Option.some.injEq, exists_eq_left']
    cases fixture.check with
    | error fault => exact iff_of_false nofun nofun
    | ok done => exact iff_of_true rfl rfl

theorem fails_of_check {file : CaseFile} {fault : CaseFault} (failed : file.check = .error fault) :
    file.Fails fault := by
  unfold check at failed
  cases read : (Readable.ofText? file.source : Option Fixture) with
  | none =>
    rw [read] at failed
    cases failed
    exact .unreadable read
  | some fixture =>
    simp only [read] at failed
    cases checked : fixture.check with
    | ok done =>
      rw [checked] at failed
      cases failed
    | error found =>
      rw [checked] at failed
      cases failed
      exact .failed read checked

instance (file : CaseFile) : Decidable file.Passes := decidable_of_iff _ check_ok_iff_passes

end
end CaseFile

namespace SuiteResult
variable [Readable Fixture]

/-- The files that were checked are counted, those that passed apart from the others, of which each
is listed with its name and its fault. -/
structure Tallies (result : SuiteResult) (files : List CaseFile) : Prop where
  total : result.total = files.length
  passed : result.passed = (files.filter fun file => file.Passes).length
  failed : result.failed = (files.filter fun file => ¬ file.Passes).length
  failures : List.Forall₂ (fun file failure => file.HasName failure.1 ∧ file.Fails failure.2)
    (files.filter fun file => ¬ file.Passes) result.failures

theorem tallies_add {result : SuiteResult} {files : List CaseFile} (tallies : result.Tallies files)
    {file : CaseFile} (named : file.HasName file.name) :
    (result.add file.name file.check).Tallies (files ++ [file]) := by
  obtain ⟨total, passed, failed, failures⟩ := tallies
  cases checked : file.check with
  | ok done =>
    have passes := CaseFile.check_ok_iff_passes.mp checked
    constructor
    · simp [add, total]
    · simp [add, passed, List.filter_append, passes]
    · simpa [add, List.filter_append, passes] using failed
    · simpa [add, List.filter_append, passes] using failures
  | error fault =>
    have not_passes : ¬ file.Passes := by
      intro passes
      rw [CaseFile.check_ok_iff_passes.mpr passes] at checked
      cases checked
    constructor
    · simp [add, total]
    · simpa [add, List.filter_append, not_passes] using passed
    · simp [add, failed, List.filter_append, not_passes]
    · rw [add, List.filter_append, List.filter_cons_of_pos (by simpa using not_passes)]
      exact List.rel_append failures (.cons ⟨named, CaseFile.fails_of_check checked⟩ .nil)

theorem tallies_foldl {files : List CaseFile} (named : ∀ file ∈ files, file.HasName file.name)
    {before : List CaseFile} {start : SuiteResult} (tallies : start.Tallies before) :
    (files.foldl (fun result file => result.add file.name file.check) start).Tallies
      (before ++ files) := by
  induction files generalizing before start with
  | nil =>
    rw [List.append_nil]
    exact tallies
  | cons file rest ih =>
    rw [List.forall_mem_cons] at named
    rw [List.foldl_cons, List.append_cons]
    exact ih named.2 (tallies_add tallies named.1)

/-- Every file that was checked has either passed or failed. -/
theorem Tallies.total_eq {result : SuiteResult} {files : List CaseFile}
    (tallies : result.Tallies files) : result.total = result.passed + result.failed := by
  rw [tallies.total, tallies.passed, tallies.failed]
  simpa using List.length_eq_length_filter_add fun file : CaseFile => decide file.Passes

/-- The count of the failures is that of the list. -/
theorem Tallies.failed_eq {result : SuiteResult} {files : List CaseFile}
    (tallies : result.Tallies files) : result.failed = result.failures.length := by
  rw [tallies.failed, tallies.failures.length_eq]

/-- A run is a success when every file that was checked has passed. -/
theorem Tallies.isSuccess_iff {result : SuiteResult} {files : List CaseFile}
    (tallies : result.Tallies files) :
    result.isSuccess = true ↔ ∀ file ∈ files, file.Passes := by
  rw [isSuccess, decide_eq_true_iff, tallies.failed, List.length_eq_zero_iff, List.filter_eq_nil_iff]
  simp

end SuiteResult

namespace Workspace

/-- Without the directory nothing is checked. With it the fixture files that the filter selects are,
at whatever depth, each once and in the order of the locations, and the run is a success when all of
them pass. This holds whichever texts are read as fixtures, and as which. -/
theorem runSuite_counts_once [Readable Fixture] (workspace : Workspace) (directory : Path)
    (filter : Option String) :
    (workspace.isPresent directory = false →
      workspace.runSuite directory filter =
        .ok { total := 0, passed := 0, failed := 0, failures := [] }) ∧
    ∀ entries, workspace.nodeAt directory = .ok (.directory entries) →
      (FileTree.directory entries).NamesDistinct →
      ∃ files result, workspace.runSuite directory filter = .ok result ∧
        (∀ file, file ∈ files ↔ CaseFile.Selects (.directory entries) filter file) ∧
        (files.Pairwise fun first second => first.location < second.location) ∧
        result.Tallies files ∧ result.total = result.passed + result.failed ∧
        result.failed = result.failures.length ∧
        (result.isSuccess = true ↔ ∀ file ∈ files, file.Passes) := by
  constructor
  · intro missing
    rw [isPresent] at missing
    rw [runSuite]
    cases found : workspace.nodeAt directory with
    | error error => rfl
    | ok node =>
      rw [found] at missing
      cases missing
  · intro entries found distinct
    let files := (CaseFile.ofTree (.directory entries)).filter (CaseFile.isSelected filter)
    have mem_files_iff (file : CaseFile) :
        file ∈ files ↔ CaseFile.Selects (.directory entries) filter file := by
      rw [List.mem_filter, CaseFile.mem_ofTree_iff distinct, CaseFile.isSelected_iff]
      constructor
      · rintro ⟨⟨there, ends⟩, selected⟩
        exact ⟨there, file.name, CaseFile.hasName_iff.mpr ⟨ends, rfl⟩, selected⟩
      · rintro ⟨there, name, named, selected⟩
        obtain ⟨ends, rfl⟩ := CaseFile.hasName_iff.mp named
        exact ⟨⟨there, ends⟩, selected⟩
    have named (file : CaseFile) (member : file ∈ files) : file.HasName file.name := by
      obtain ⟨_, name, has_name, _⟩ := (mem_files_iff file).mp member
      exact (CaseFile.hasName_iff.mp has_name).2 ▸ has_name
    have at_start : SuiteResult.Tallies {} [] := ⟨rfl, rfl, rfl, .nil⟩
    have tallies : ((FileTree.directory entries).runSuite filter).Tallies files :=
      SuiteResult.tallies_foldl named at_start
    refine ⟨files, _, ?_, mem_files_iff, ?_, tallies, tallies.total_eq, tallies.failed_eq,
      tallies.isSuccess_iff⟩
    · rw [runSuite, found]
    · exact (CaseFile.ofTree_ascending distinct).sublist List.filter_sublist

end Workspace

/-- A directory with the ending is entered, and a name of nothing but the ending is no fixture. From
here on the reader is the one of `Yaml`. -/
def suiteTree : FileTree :=
  .directory
    [(".yaml", .file ""), ("early.yaml", .file "schema: {}\nerror: unknown\n"),
     ("flat.yaml", .file "schema: 1\n"), ("order.yaml", .file "schema: {}\n"),
     ("shop.yaml", .directory [("late.yaml", .file "schema: {}\n"), ("late.txt", .file "")])]

def suiteWorkspace : Workspace := { root := .directory [("cases", suiteTree)] }

def suiteResult : SuiteResult :=
  { total := 3
    passed := 1
    failed := 2
    failures := [("early", .failed (.missingError "unknown")), ("flat", .unreadable)] }

theorem nodeAt_suiteWorkspace : suiteWorkspace.nodeAt ⟨"cases"⟩ = .ok suiteTree := rfl

theorem namesDistinct_suiteTree : suiteTree.NamesDistinct := by
  simp [suiteTree, FileTree.NamesDistinct, FileTree.NamesDistinctIn]

theorem runSuite_suiteWorkspace :
    suiteWorkspace.runSuite ⟨"cases"⟩ (some "l") = .ok suiteResult := by
  have listed : CaseFile.ofTree suiteTree =
      [⟨["early.yaml"], "schema: {}\nerror: unknown\n"⟩, ⟨["flat.yaml"], "schema: 1\n"⟩,
       ⟨["order.yaml"], "schema: {}\n"⟩, ⟨["shop.yaml", "late.yaml"], "schema: {}\n"⟩] := by
    rw [CaseFile.ofTree, List.mergeSort_of_pairwise (by decide +kernel)]
    decide +kernel
  have run_eq : suiteWorkspace.runSuite ⟨"cases"⟩ (some "l") = .ok (suiteTree.runSuite (some "l")) :=
    rfl
  rw [run_eq, FileTree.runSuite, listed]
  decide +kernel

/-- Of four fixtures three are asked for by their names, and one of these passes. -/
theorem suiteWorkspace_counts_once :
    suiteTree.NamesDistinct ∧ suiteWorkspace.nodeAt ⟨"cases"⟩ = .ok suiteTree ∧
      suiteWorkspace.runSuite ⟨"cases"⟩ (some "l") = .ok suiteResult ∧
      ∃ files, (∀ file, file ∈ files ↔ CaseFile.Selects suiteTree (some "l") file) ∧
        (files.Pairwise fun first second => first.location < second.location) ∧
        suiteResult.Tallies files ∧ files.length = 3 := by
  obtain ⟨_, counts⟩ := Workspace.runSuite_counts_once suiteWorkspace ⟨"cases"⟩ (some "l")
  obtain ⟨files, result, run, members, ascending, tallies, _⟩ :=
    counts _ nodeAt_suiteWorkspace namesDistinct_suiteTree
  rw [runSuite_suiteWorkspace] at run
  cases run
  exact ⟨namesDistinct_suiteTree, nodeAt_suiteWorkspace, runSuite_suiteWorkspace, files, members,
    ascending, tallies, tallies.total.symm⟩

end SchemaForms
