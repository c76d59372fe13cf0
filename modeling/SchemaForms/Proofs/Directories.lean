import SchemaForms.Proofs.Workspace
/-! Creating directories. Whether it succeeds or fails, the only change is that directories stand
where nothing was. -/
namespace SchemaForms

namespace FileTree

/-- The directory around a directory is one; nothing is around the root but itself. -/
theorem kindAt?_dropLast {tree : FileTree} {location : Location}
    (there : tree.kindAt? location = some .directory) :
    tree.kindAt? location.dropLast = some .directory := by
  rcases List.eq_nil_or_concat' location with rfl | ⟨folder, name, rfl⟩
  · exact there
  · rw [List.dropLast_concat]
    by_contra closed
    rw [kindAt?_append_cons_of_not_directory closed] at there
    cases there

end FileTree

namespace Workspace

/-- Nothing has changed but that directories stand where nothing was. -/
structure Extends (before after : Workspace) : Prop where
  directory : after.directory = before.directory
  kinds : ∀ location, after.root.kindAt? location = before.root.kindAt? location ∨
    before.root.kindAt? location = none ∧ after.root.kindAt? location = some .directory

theorem Extends.refl (workspace : Workspace) : workspace.Extends workspace :=
  ⟨rfl, fun _ => .inl rfl⟩

theorem Extends.trans {before between after : Workspace} (first : before.Extends between)
    (second : between.Extends after) : before.Extends after := by
  refine ⟨second.directory.trans first.directory, fun location => ?_⟩
  rcases second.kinds location with same | ⟨free, created⟩
  · rw [same]
    exact first.kinds location
  · rcases first.kinds location with same | ⟨_, there⟩
    · exact .inr ⟨same ▸ free, created⟩
    · rw [there] at free
      cases free

/-- A path to something that is not there ends with its name in a directory. -/
theorem exists_folder_of_free {workspace : Workspace} {path : Path} {location : Location}
    (leads : workspace.locate path = .ok location)
    (free : workspace.root.kindAt? location = none) :
    ∃ folder name, location = folder ++ [name] ∧
      workspace.root.kindAt? folder = some .directory := by
  unfold locate at leads
  split at leads
  · cases leads
  · have some_part : path.parts ≠ [] :=
      mt List.map_eq_nil_iff.mp (segments_ne_nil '/' path.text.toList)
    obtain ⟨first, last, parts_eq⟩ := (List.eq_nil_or_concat' path.parts).resolve_left some_part
    rw [parts_eq, List.foldlM_append, bind_ok_iff] at leads
    obtain ⟨folder, _, last_step⟩ := leads
    simp only [List.foldlM_cons, List.foldlM_nil, bind_pure, step_ok_iff] at last_step
    obtain ⟨inside, location_eq⟩ := last_step
    by_cases up : last = ".."
    · rw [if_pos up] at location_eq
      rw [location_eq, FileTree.kindAt?_dropLast inside] at free
      cases free
    · by_cases stays : Path.isVoid last = true
      · rw [if_neg up, if_pos stays] at location_eq
        rw [location_eq, inside] at free
        cases free
      · rw [if_neg up, if_neg stays] at location_eq
        exact ⟨folder, last, location_eq, inside⟩

theorem extends_of_makeDirectory {before after : Workspace} {path : Path}
    (made : before.makeDirectory path = .ok after) : before.Extends after := by
  unfold makeDirectory at made
  obtain ⟨location, leads, made⟩ := exists_of_bind_ok made
  cases found : before.root.find? location with
  | some node => rw [found] at made; cases made
  | none =>
    rw [found] at made
    cases made
    have free : before.root.kindAt? location = none := by rw [FileTree.kindAt?, found]; rfl
    obtain ⟨folder, name, rfl, inside⟩ := exists_folder_of_free leads free
    refine ⟨rfl, fun other => ?_⟩
    rw [put, FileTree.kindAt?_put inside (by simp [free]) rfl]
    by_cases here : other = folder ++ [name]
    · rw [if_pos here]
      exact .inr ⟨here ▸ free, rfl⟩
    · rw [if_neg here]
      exact .inl rfl

/-- An action that leaves everything that is there as it is. -/
def Grows {α : Type} (action : StateM Workspace α) : Prop :=
  ∀ before : Workspace, before.Extends (action.run before).2

theorem grows_pure {α : Type} (value : α) : Grows (pure value) := Extends.refl

theorem grows_bind {α β : Type} {action : StateM Workspace α} {next : α → StateM Workspace β}
    (first : Grows action) (later : ∀ value, Grows (next value)) : Grows (action >>= next) :=
  fun before => (first before).trans (later _ _)

theorem grows_makeDirectory (path : Path) :
    Grows (FileAccess.makeDirectory path : StateM Workspace _) := by
  intro before
  have run_eq : (FileAccess.makeDirectory path : StateM Workspace _).run before =
      attempt (·.makeDirectory path) before := rfl
  rw [run_eq, attempt]
  cases made : before.makeDirectory path with
  | error error => exact .refl before
  | ok changed => exact extends_of_makeDirectory made

theorem grows_isDirectory (path : Path) :
    Grows (FileAccess.isDirectory path : StateM Workspace _) := Extends.refl

/-- Creating directories leaves what is there, also when it fails. -/
theorem grows_createNested (paths : List Path) : Grows (createNested paths) := by
  induction paths with
  | nil => exact grows_pure _
  | cons path parents ih =>
    have settles (error : IoError) : Grows (do
        if ← FileAccess.isDirectory path then return .ok () else return .error error :
          StateM Workspace (Except IoError Unit)) := by
      refine grows_bind (grows_isDirectory path) fun there => ?_
      cases there <;> exact grows_pure _
    unfold createNested
    split
    · exact grows_pure _
    · refine grows_bind (grows_makeDirectory path) fun outcome => ?_
      cases outcome with
      | ok created => exact grows_pure _
      | error error =>
        cases error with
        | notFound =>
          refine grows_bind ih fun outcome => ?_
          cases outcome with
          | error error => exact grows_pure _
          | ok created =>
            refine grows_bind (grows_makeDirectory path) fun outcome => ?_
            cases outcome with
            | ok created => exact grows_pure _
            | error error => exact settles error
        | _ => exact settles _

end Workspace
end SchemaForms
