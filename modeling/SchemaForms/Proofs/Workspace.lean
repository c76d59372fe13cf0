import SchemaForms.Proofs.OrderedMap
import SchemaForms.Proofs.Paths
import SchemaForms.Proofs.Traversal
import SchemaForms.Run
/-! Files of a workspace. Writing a file changes one location and lets no directory appear or
vanish, so that paths lead where they led before, and what is read is what was written last. -/
namespace SchemaForms

namespace FileTree

/-- What stands at a location, without what a directory contains. -/
inductive Kind where
  | file (contents : String)
  | directory
deriving DecidableEq

def kind : FileTree → Kind
  | .file contents => .file contents
  | .directory _ => .directory

def kindAt? (tree : FileTree) (location : Location) : Option Kind :=
  (tree.find? location).map kind

theorem kindAt?_cons (tree : FileTree) (name : String) (rest : Location) :
    tree.kindAt? (name :: rest) = (Entries.get? tree.entries name).bind (kindAt? · rest) := by
  rw [kindAt?, find?, Option.map_bind]
  rfl

theorem kindAt?_cons_of_bare {tree : FileTree} (bare : tree.entries = []) (name : String)
    (rest : Location) : tree.kindAt? (name :: rest) = none := by
  rw [kindAt?_cons, bare]
  rfl

/-- Nothing is below what is not a directory. -/
theorem kindAt?_append_cons_of_not_directory {tree : FileTree} {location : Location}
    (closed : tree.kindAt? location ≠ some .directory) (name : String) (rest : Location) :
    tree.kindAt? (location ++ name :: rest) = none := by
  induction location generalizing tree with
  | nil =>
    cases tree with
    | file contents => rfl
    | directory entries => exact absurd rfl closed
  | cons first others ih =>
    rw [List.cons_append, kindAt?_cons]
    rw [kindAt?_cons] at closed
    cases found : Entries.get? tree.entries first with
    | none => rfl
    | some child =>
      rw [found] at closed
      exact ih closed

/-- A file or an empty directory that is put into a directory changes nothing elsewhere. -/
theorem kindAt?_put {tree node : FileTree} {parent : Location} {name : String}
    (inside : tree.kindAt? parent = some .directory)
    (free : tree.kindAt? (parent ++ [name]) ≠ some .directory) (bare : node.entries = [])
    (other : Location) :
    (tree.put node (parent ++ [name])).kindAt? other =
      if other = parent ++ [name] then some node.kind else tree.kindAt? other := by
  induction parent generalizing tree other with
  | nil =>
    cases other with
    | nil => exact inside.symm
    | cons first rest =>
      rw [List.nil_append, put, kindAt?_cons, entries, Entries.get?_upsert, kindAt?_cons]
      by_cases same : name = first
      · subst same
        rw [if_pos rfl, Option.bind_some, put]
        cases rest with
        | nil => rw [if_pos rfl]; rfl
        | cons second others =>
          have below := kindAt?_append_cons_of_not_directory free second others
          rw [if_neg (by simp), kindAt?_cons_of_bare bare, ← kindAt?_cons]
          exact below.symm
      · rw [if_neg same, if_neg (by simp [Ne.symm same])]
  | cons folder folders ih =>
    rw [kindAt?_cons] at inside
    obtain ⟨child, found, child_inside⟩ := Option.bind_eq_some_iff.mp inside
    rw [List.cons_append, kindAt?_cons, found, Option.bind_some] at free
    cases other with
    | nil =>
      cases tree with
      | file contents => cases found
      | directory entries => rfl
    | cons first rest =>
      rw [List.cons_append, put, kindAt?_cons, entries, Entries.get?_upsert, kindAt?_cons]
      by_cases same : folder = first
      · subst same
        rw [if_pos rfl, found, Option.bind_some, Option.getD_some, Option.bind_some,
          ih child_inside free]
        simp
      · rw [if_neg same, if_neg (by simp [Ne.symm same])]

end FileTree

namespace Workspace

/-- Where relative or absolute paths start. -/
def start (workspace : Workspace) (path : Path) : Location :=
  if path.isAbsolute then [] else workspace.directory

/-- Where the parts of a path before its last lead. -/
def enter (workspace : Workspace) (path : Path) : Except IoError Location :=
  path.parts.dropLast.foldlM (step workspace.root) (workspace.start path)

theorem step_ok_iff {root : FileTree} {location next : Location} {part : String} :
    step root location part = .ok next ↔
      root.kindAt? location = some .directory ∧
        next = if part = ".." then location.dropLast
          else if Path.isVoid part then location else location ++ [part] := by
  unfold step FileTree.kindAt?
  cases root.find? location with
  | none => exact iff_of_false nofun fun done => nomatch done.1
  | some node =>
    cases node with
    | file contents => exact iff_of_false nofun fun done => nomatch done.1
    | directory entries =>
      rw [Except.ok.injEq]
      exact ⟨fun same => ⟨rfl, same.symm⟩, fun done => done.2.symm⟩

/-- Paths lead along directories only. -/
theorem foldlM_step_ok_congr {root root' : FileTree}
    (same : ∀ location, root'.kindAt? location = some .directory ↔
      root.kindAt? location = some .directory) {parts : List String} {start location : Location} :
    parts.foldlM (step root') start = .ok location ↔
      parts.foldlM (step root) start = .ok location := by
  induction parts generalizing start with
  | nil => rfl
  | cons part rest ih => simp only [List.foldlM_cons, bind_ok_iff, step_ok_iff, same, ih]

theorem locate_ok_congr {workspace workspace' : Workspace}
    (same : ∀ location, workspace'.root.kindAt? location = some .directory ↔
      workspace.root.kindAt? location = some .directory)
    (same_start : workspace'.directory = workspace.directory) {path : Path}
    {location : Location} :
    workspace'.locate path = .ok location ↔ workspace.locate path = .ok location := by
  unfold locate
  rw [same_start]
  split
  · rfl
  · exact foldlM_step_ok_congr same

theorem read_ok_iff {workspace : Workspace} {path : Path} {contents : String} :
    workspace.read path = .ok contents ↔
      ∃ location, workspace.locate path = .ok location ∧
        workspace.root.kindAt? location = some (.file contents) := by
  unfold read nodeAt FileTree.kindAt?
  cases workspace.locate path with
  | error failure => simp [Except.bind]
  | ok location =>
    simp only [Except.bind, Except.ok.injEq, exists_eq_left']
    cases workspace.root.find? location with
    | none => simp
    | some node => cases node <;> simp [FileTree.kind]

/-- A name leads to an entry of the directory to which its folder leads. -/
theorem locate_append_ok_iff {workspace : Workspace} {place : Path} {file : String}
    {location : Location} (opened : Path.IsOpen place.text) (normal : Path.IsNormal file) :
    workspace.locate ⟨place.text ++ file⟩ = .ok location ↔
      ∃ folder, workspace.enter place = .ok folder ∧
        workspace.root.kindAt? folder = some .directory ∧ location = folder ++ [file] := by
  obtain ⟨text⟩ := place
  obtain ⟨plain, nonempty, not_dot, not_up⟩ := normal
  have names : Path.isVoid file = false := by simp [Path.isVoid, nonempty, not_dot]
  have some_text : text ++ file ≠ "" := by
    intro empty
    exact nonempty (String.append_eq_empty_iff.mp empty).2
  have last_step (folder : Location) : step workspace.root folder file = .ok location ↔
      workspace.root.kindAt? folder = some .directory ∧ location = folder ++ [file] := by
    rw [step_ok_iff, if_neg not_up, names, if_neg (by decide)]
  unfold locate enter start
  rw [if_neg some_text, Path.parts_append opened plain, Path.isAbsolute_append opened plain,
    List.foldlM_append, bind_ok_iff]
  simp only [List.foldlM_cons, List.foldlM_nil, bind_pure, last_step]

theorem write_ok_iff {workspace after : Workspace} {path : Path} {contents : String} :
    workspace.write path contents = .ok after ↔
      ∃ location, workspace.locate path = .ok location ∧
        workspace.root.kindAt? location ≠ some .directory ∧
        after = workspace.put location (.file contents) := by
  unfold write FileTree.kindAt?
  cases workspace.locate path with
  | error failure => simp [Except.bind]
  | ok location =>
    simp only [Except.bind, Except.ok.injEq, exists_eq_left']
    cases workspace.root.find? location with
    | none => simp [eq_comm]
    | some node => cases node <;> simp [FileTree.kind, eq_comm]

/-- A file with these contents stands at the location after, and nothing else has changed. -/
structure Puts (before : Workspace) (location : Location) (contents : String)
    (after : Workspace) : Prop where
  directory : after.directory = before.directory
  free : before.root.kindAt? location ≠ some .directory
  kinds : ∀ other, after.root.kindAt? other =
    if other = location then some (.file contents) else before.root.kindAt? other

theorem Puts.locate_ok_iff {before after : Workspace} {location : Location} {contents : String}
    (puts : before.Puts location contents after) {path : Path} {other : Location} :
    after.locate path = .ok other ↔ before.locate path = .ok other := by
  refine locate_ok_congr (fun place => ?_) puts.directory
  rw [puts.kinds]
  by_cases same : place = location
  · subst same
    simpa using puts.free
  · rw [if_neg same]

/-- Writing under a name puts a file where the path leads. -/
theorem exists_puts_of_write {before after : Workspace} {directory : Path} {name contents : String}
    (normal : Path.IsNormal (Path.lastPart name))
    (done : before.write (directory.join ⟨name⟩) contents = .ok after) :
    ∃ location, before.locate (directory.join ⟨name⟩) = .ok location ∧
      before.Puts location contents after := by
  have opened := Path.isOpen_join directory (Path.isOpen_folder name)
  obtain ⟨location, leads, free, rfl⟩ := write_ok_iff.mp done
  refine ⟨location, leads, rfl, free, ?_⟩
  rw [Path.join_eq_append] at leads
  obtain ⟨folder, _, inside, rfl⟩ := (locate_append_ok_iff opened normal).mp leads
  exact FileTree.kindAt?_put inside free rfl

theorem run_bind_of_run {α β : Type} {action : StateM Workspace α} {next : α → StateM Workspace β}
    {before between : Workspace} {value : α} (run : action.run before = (value, between)) :
    (action >>= next).run before = (next value).run between := by
  rw [StateT.run_bind, run]
  rfl

/-- What stops at a failure of an action succeeds after it. -/
theorem run_bind_ok_iff {α β ε ε' : Type} {action : StateM Workspace (Except ε α)}
    {next : Except ε α → StateM Workspace (Except ε' β)}
    (stops : ∀ error, ∃ failure, next (.error error) = pure (.error failure))
    {before after : Workspace} {result : β} :
    (action >>= next).run before = (.ok result, after) ↔
      ∃ value between, action.run before = (.ok value, between) ∧
        (next (.ok value)).run between = (.ok result, after) := by
  rw [StateT.run_bind]
  rcases action.run before with ⟨outcome, between⟩
  cases outcome with
  | error error =>
    obtain ⟨failure, stopped⟩ := stops error
    refine iff_of_false (fun done => ?_) ?_
    · change (next (.error error)).run between = _ at done
      rw [stopped] at done
      cases done
    · rintro ⟨value, between, done, _⟩
      cases done
  | ok value =>
    constructor
    · exact fun done => ⟨value, between, rfl, done⟩
    · rintro ⟨_, _, same, done⟩
      cases same
      exact done

section
variable {directory : Path} {before after : Workspace} {written : List Path}

theorem run_write_ok_iff {path : Path} {contents : String} :
    (FileAccess.write path contents : StateM Workspace _).run before = (.ok (), after) ↔
      before.write path contents = .ok after := by
  have run_eq : (FileAccess.write path contents : StateM Workspace _).run before =
      attempt (·.write path contents) before := rfl
  rw [run_eq, attempt]
  cases before.write path contents with
  | error error => exact iff_of_false nofun nofun
  | ok changed =>
    constructor
    · intro same
      cases same
      rfl
    · intro same
      cases same
      rfl

theorem run_writeFiles_cons {name contents : String} {rest : List (String × String)} :
    (writeFiles directory ((name, contents) :: rest) : StateM Workspace _).run before =
        (.ok written, after) ↔
      ∃ between later, before.write (directory.join ⟨name⟩) contents = .ok between ∧
        (writeFiles directory rest : StateM Workspace _).run between = (.ok later, after) ∧
        written = directory.join ⟨name⟩ :: later := by
  rw [writeFiles, run_bind_ok_iff]
  · constructor
    · rintro ⟨_, between, done, others⟩
      rw [run_bind_ok_iff] at others
      · obtain ⟨later, _, others_done, same⟩ := others
        cases same
        exact ⟨between, later, run_write_ok_iff.mp done, others_done, rfl⟩
      · exact fun failure => ⟨failure, rfl⟩
    · rintro ⟨between, later, done, others, rfl⟩
      refine ⟨(), between, run_write_ok_iff.mpr done, ?_⟩
      rw [run_bind_ok_iff]
      · exact ⟨later, after, others, rfl⟩
      · exact fun failure => ⟨failure, rfl⟩
  · exact fun error => ⟨_, rfl⟩

theorem written_of_writeFiles {files : List (String × String)}
    (done : (writeFiles directory files : StateM Workspace _).run before = (.ok written, after)) :
    written = files.map fun file => directory.join ⟨file.1⟩ := by
  induction files generalizing before written with
  | nil =>
    cases done
    rfl
  | cons file rest ih =>
    obtain ⟨between, later, _, others, rfl⟩ := run_writeFiles_cons.mp done
    rw [ih others, List.map_cons]

/-- Paths lead where they led before the files were written. -/
theorem locate_ok_iff_of_writeFiles {files : List (String × String)}
    (normal : ∀ file ∈ files, Path.IsNormal (Path.lastPart file.1))
    (done : (writeFiles directory files : StateM Workspace _).run before = (.ok written, after))
    {path : Path} {location : Location} :
    after.locate path = .ok location ↔ before.locate path = .ok location := by
  induction files generalizing before written with
  | nil =>
    cases done
    rfl
  | cons file rest ih =>
    rw [List.forall_mem_cons] at normal
    obtain ⟨between, later, wrote, others, _⟩ := run_writeFiles_cons.mp done
    obtain ⟨_, _, puts⟩ := exists_puts_of_write normal.1 wrote
    rw [ih normal.2 others, puts.locate_ok_iff]

/-- Every file that is written has a location. -/
theorem exists_locate_of_writeFiles {files : List (String × String)}
    (normal : ∀ file ∈ files, Path.IsNormal (Path.lastPart file.1))
    (done : (writeFiles directory files : StateM Workspace _).run before = (.ok written, after)) :
    ∀ file ∈ files, ∃ location, after.locate (directory.join ⟨file.1⟩) = .ok location := by
  induction files generalizing before written with
  | nil => nofun
  | cons file rest ih =>
    have same_places {location : Location} :
        after.locate (directory.join ⟨file.1⟩) = .ok location ↔
          before.locate (directory.join ⟨file.1⟩) = .ok location :=
      locate_ok_iff_of_writeFiles normal done
    rw [List.forall_mem_cons] at normal
    obtain ⟨between, later, wrote, others, _⟩ := run_writeFiles_cons.mp done
    obtain ⟨location, leads, _⟩ := exists_puts_of_write normal.1 wrote
    exact List.forall_mem_cons.mpr ⟨⟨location, same_places.mpr leads⟩, ih normal.2 others⟩

/-- Locations to which no file is written stay as they are. -/
theorem kindAt?_of_writeFiles {files : List (String × String)}
    (normal : ∀ file ∈ files, Path.IsNormal (Path.lastPart file.1))
    (done : (writeFiles directory files : StateM Workspace _).run before = (.ok written, after))
    {location : Location}
    (untouched : ∀ file ∈ files, after.locate (directory.join ⟨file.1⟩) ≠ .ok location) :
    after.root.kindAt? location = before.root.kindAt? location := by
  induction files generalizing before written with
  | nil =>
    cases done
    rfl
  | cons file rest ih =>
    have same_places : after.locate (directory.join ⟨file.1⟩) = .ok location ↔
        before.locate (directory.join ⟨file.1⟩) = .ok location :=
      locate_ok_iff_of_writeFiles normal done
    rw [List.forall_mem_cons] at normal untouched
    obtain ⟨between, later, wrote, others, _⟩ := run_writeFiles_cons.mp done
    obtain ⟨place, leads, puts⟩ := exists_puts_of_write normal.1 wrote
    have elsewhere : location ≠ place := by
      rintro rfl
      exact untouched.1 (same_places.mpr leads)
    rw [ih normal.2 others untouched.2, puts.kinds, if_neg elsewhere]

/-- The last file that is written to a location is read there. -/
theorem read_of_writeFiles {first rest : List (String × String)} {name contents : String}
    (normal : ∀ file ∈ first ++ (name, contents) :: rest,
      Path.IsNormal (Path.lastPart file.1))
    (done : (writeFiles directory (first ++ (name, contents) :: rest) : StateM Workspace _).run
      before = (.ok written, after))
    (last : ∀ later ∈ rest,
      after.locate (directory.join ⟨later.1⟩) ≠ after.locate (directory.join ⟨name⟩)) :
    after.read (directory.join ⟨name⟩) = .ok contents := by
  induction first generalizing before written with
  | nil =>
    have same_places {place : Location} : after.locate (directory.join ⟨name⟩) = .ok place ↔
        before.locate (directory.join ⟨name⟩) = .ok place :=
      locate_ok_iff_of_writeFiles normal done
    rw [List.nil_append, List.forall_mem_cons] at normal
    obtain ⟨between, later, wrote, others, _⟩ := run_writeFiles_cons.mp done
    obtain ⟨place, leads, puts⟩ := exists_puts_of_write normal.1 wrote
    have leads_after := same_places.mpr leads
    rw [leads_after] at last
    refine read_ok_iff.mpr ⟨place, leads_after, ?_⟩
    rw [kindAt?_of_writeFiles normal.2 others last, puts.kinds, if_pos rfl]
  | cons file before_files ih =>
    rw [List.cons_append, List.forall_mem_cons] at normal
    obtain ⟨between, later, _, others, _⟩ := run_writeFiles_cons.mp done
    exact ih normal.2 others

theorem run_writeGeneration {generation : Generation} :
    (writeGeneration generation directory : StateM Workspace _).run before =
        (.ok written, after) ↔
      ∃ between, (createDirectories directory : StateM Workspace _).run before =
          (.ok (), between) ∧
        (writeFiles directory (generation.forms.flatMap GeneratedForm.artifacts) :
          StateM Workspace _).run between = (.ok written, after) := by
  rw [writeGeneration, run_bind_ok_iff]
  · exact ⟨fun ⟨_, done⟩ => done, fun done => ⟨(), done⟩⟩
  · exact fun error => ⟨_, rfl⟩

end
end Workspace
end SchemaForms
