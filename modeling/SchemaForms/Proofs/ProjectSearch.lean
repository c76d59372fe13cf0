import SchemaForms.Proofs.ParentPaths
import SchemaForms.Proofs.Workspace
/-! The search for a project file. It climbs from a directory, looks for the file before each step
up, and stops at the first directory that has it. -/
namespace SchemaForms

namespace Workspace
variable {workspace : Workspace} {directory : Path}

/-- The location of a directory. The empty path stands for the working directory. -/
def LeadsTo (workspace : Workspace) (directory : Path) (location : Location) : Prop :=
  if directory.text = "" then location = workspace.directory
  else workspace.locate directory = .ok location

/-- The directory has a file or a directory of this name. -/
def HasEntry (workspace : Workspace) (directory : Path) (name : String) : Prop :=
  ∃ location, workspace.LeadsTo directory location ∧
    (workspace.root.kindAt? (location ++ [name])).isSome

theorem isPresent_iff {path : Path} :
    workspace.isPresent path = true ↔
      ∃ location, workspace.locate path = .ok location ∧
        (workspace.root.kindAt? location).isSome := by
  unfold isPresent nodeAt FileTree.kindAt?
  cases workspace.locate path with
  | error failure => simp [Except.bind, Except.toBool]
  | ok location =>
    simp only [Except.bind, Except.ok.injEq, exists_eq_left']
    cases workspace.root.find? location <;> simp [Except.toBool]

/-- Something is below directories only. -/
theorem kindAt?_of_isSome_append {root : FileTree} {location : Location} {name : String}
    (there : (root.kindAt? (location ++ [name])).isSome) :
    root.kindAt? location = some .directory := by
  by_contra closed
  rw [FileTree.kindAt?_append_cons_of_not_directory closed] at there
  cases there

/-- A slash at the end asks for a directory. -/
theorem locate_slash_ok_iff {text : String} {location : Location}
    (inside : workspace.root.kindAt? location = some .directory) :
    workspace.locate ⟨text ++ "/"⟩ = .ok location ↔
      workspace.enter ⟨text ++ "/"⟩ = .ok location := by
  have some_text : text ++ "/" ≠ "" := fun empty =>
    absurd (String.append_eq_empty_iff.mp empty).2 (by decide)
  have last_step (place : Location) : step workspace.root place "" = .ok location ↔
      place = location := by
    rw [step_ok_iff, if_neg (by decide), if_pos (by decide)]
    constructor
    · exact fun ⟨_, same⟩ => same.symm
    · rintro rfl
      exact ⟨inside, rfl⟩
  unfold locate enter start
  rw [if_neg some_text, Path.parts_slash, List.dropLast_concat, List.foldlM_append, bind_ok_iff]
  simp only [List.foldlM_cons, List.foldlM_nil, bind_pure, last_step, exists_eq_right]

/-- A slash after a path leaves its parts before the last. -/
theorem enter_slash {text : String} (nonempty : text ≠ "") :
    workspace.enter ⟨text ++ "/"⟩ = workspace.locate ⟨text⟩ := by
  rw [enter, start, Path.parts_slash, List.dropLast_concat, Path.isAbsolute_slash nonempty, locate,
    if_neg nonempty]

/-- Where the last part of a path in a directory starts is where the directory is. -/
theorem enter_join_ok_iff {location : Location}
    (inside : workspace.root.kindAt? location = some .directory) :
    workspace.enter (directory.join ⟨""⟩) = .ok location ↔
      workspace.LeadsTo directory location := by
  have relative : Path.isAbsolute ⟨""⟩ = false := rfl
  unfold LeadsTo Path.join
  rw [relative, Bool.false_or]
  by_cases empty : directory.text = ""
  · rw [if_pos empty, if_pos (decide_eq_true empty)]
    change Except.ok workspace.directory = .ok location ↔ _
    rw [Except.ok.injEq, eq_comm]
  · rw [if_neg empty, if_neg (by simpa using empty)]
    simp only [String.append_empty]
    split
    · next slash_last =>
      obtain ⟨before, chars⟩ := List.getLast?_eq_some_iff.mp slash_last
      have text_eq : directory = ⟨String.ofList before ++ "/"⟩ := by
        refine congrArg Path.mk (String.toList_inj.mp ?_)
        rw [chars, String.toList_append, String.toList_ofList]
        rfl
      rw [text_eq, locate_slash_ok_iff inside]
    · rw [enter_slash empty]

theorem isPresent_join_iff {name : String} (normal : Path.IsNormal name) :
    workspace.isPresent (directory.join ⟨name⟩) = true ↔ workspace.HasEntry directory name := by
  have opened : Path.IsOpen (directory.join ⟨""⟩).text := Path.isOpen_join directory (.inl rfl)
  have join_eq : directory.join ⟨name⟩ = ⟨(directory.join ⟨""⟩).text ++ name⟩ := by
    rw [← Path.join_append directory (.inl rfl) normal.1, String.empty_append]
  rw [isPresent_iff, join_eq]
  constructor
  · rintro ⟨_, leads, there⟩
    obtain ⟨location, enters, inside, rfl⟩ := (locate_append_ok_iff opened normal).mp leads
    exact ⟨location, (enter_join_ok_iff inside).mp enters, there⟩
  · rintro ⟨location, leads, there⟩
    have inside := kindAt?_of_isSome_append there
    exact ⟨_, (locate_append_ok_iff opened normal).mpr
      ⟨location, (enter_join_ok_iff inside).mpr leads, inside, rfl⟩, there⟩

end Workspace

namespace Project
variable {workspace : Workspace} {directories : List Path}

theorem isNormal_fileName : Path.IsNormal fileName := by decide

/-- The first of the directories that has a project file. -/
def Nearest (workspace : Workspace) (directories : List Path) (directory : Path) : Prop :=
  ∃ nearer farther, directories = nearer ++ directory :: farther ∧
    (∀ other ∈ nearer, ¬workspace.HasEntry other fileName) ∧
    workspace.HasEntry directory fileName

theorem find?_eq_some_iff_nearest {present : Path → Bool}
    (present_iff : ∀ directory, present directory = true ↔ workspace.HasEntry directory fileName)
    {directory : Path} :
    directories.find? present = some directory ↔ Nearest workspace directories directory := by
  have absent_iff (other : Path) : (!present other) = true ↔
      ¬workspace.HasEntry other fileName := by
    rw [Bool.not_eq_true', ← Bool.not_eq_true, present_iff]
  rw [List.find?_eq_some_iff_append, present_iff, Nearest]
  simp only [absent_iff]
  constructor
  · rintro ⟨there, nearer, farther, split, absent⟩
    exact ⟨nearer, farther, split, absent, there⟩
  · rintro ⟨nearer, farther, split, absent, there⟩
    exact ⟨there, nearer, farther, split, absent⟩

section
variable {m : Type → Type} [Monad m] [FileAccess m]

/-- The search looks into a directory, and goes on with its parent when there is one. -/
theorem find_eq (start : Path) :
    (find start : m (Option Path)) = (do
      if ← FileAccess.isPresent (start.join ⟨fileName⟩) then
        return some (start.join ⟨fileName⟩)
      else match start.parent? with
        | none => return none
        | some parent => find parent) := by
  unfold find Path.ancestors Path.parent?
  rw [findIn]
  rcases start.parents_cases with ⟨_, parents_eq⟩ | ⟨parent, _, parents_eq⟩
  · rw [parents_eq]
    rfl
  · rw [parents_eq]
    rfl

end

theorem run_findIn_cons (workspace : Workspace) (directory : Path) (rest : List Path) :
    (findIn (directory :: rest) : StateM Workspace _).run workspace =
      if workspace.isPresent (directory.join ⟨fileName⟩) then
        (some (directory.join ⟨fileName⟩), workspace)
      else (findIn rest : StateM Workspace _).run workspace := by
  have looked : (FileAccess.isPresent (directory.join ⟨fileName⟩) : StateM Workspace _).run
      workspace = (workspace.isPresent (directory.join ⟨fileName⟩), workspace) := rfl
  rw [findIn, Workspace.run_bind_of_run looked]
  cases workspace.isPresent (directory.join ⟨fileName⟩) <;> rfl

theorem run_findIn (workspace : Workspace) (directories : List Path) :
    (findIn directories : StateM Workspace _).run workspace =
      ((directories.find? fun directory => workspace.isPresent (directory.join ⟨fileName⟩)).map
        (·.join ⟨fileName⟩), workspace) := by
  induction directories with
  | nil => rfl
  | cons directory rest ih =>
    rw [run_findIn_cons, List.find?_cons]
    cases workspace.isPresent (directory.join ⟨fileName⟩) with
    | true => rfl
    | false => exact ih

/-- The search ends, having looked at a start and its parents up to the empty path or the root. It
returns the project file of the nearest directory that has one, and nothing when none has. -/
theorem find_nearest (workspace : Workspace) (start : Path) :
    ∃ directories, start.Climbs directories ∧
      directories.length = start.components.length + (if start.isAbsolute then 0 else 1) ∧
      (∃ last, directories.getLast? = some last ∧
        if start.isAbsolute then last.components = ["/"] else last = ⟨""⟩) ∧
      ∃ found, (find start : StateM Workspace _).run workspace = (found, workspace) ∧
        (∀ config, found = some config ↔
          ∃ directory, Nearest workspace directories directory ∧
            config = directory.join ⟨fileName⟩) ∧
        (found = none ↔
          ∀ directory ∈ directories, ¬workspace.HasEntry directory fileName) := by
  have climbs := start.climbs_ancestors
  have present_iff (directory : Path) : workspace.isPresent (directory.join ⟨fileName⟩) = true ↔
      workspace.HasEntry directory fileName := Workspace.isPresent_join_iff isNormal_fileName
  refine ⟨start.ancestors, climbs, climbs.length_eq, climbs.exists_last, _,
    run_findIn workspace start.ancestors, fun config => ?_, ?_⟩
  · rw [Option.map_eq_some_iff]
    simp only [find?_eq_some_iff_nearest present_iff, eq_comm (a := config)]
  · simp only [Option.map_eq_none_iff, List.find?_eq_none, present_iff]

end Project
end SchemaForms
