import SchemaForms.Proofs.FileNames
import SchemaForms.Proofs.Workspace
/-! Where the files of a generation are written. A definition whose name is like a path takes its
files to another directory than the one they are meant for. -/
namespace SchemaForms

namespace Path

theorem isChildOf_folder (directory : Path) {name : String} (normal : IsNormal (lastPart name)) :
    (directory.join ⟨name⟩).IsChildOf (directory.join ⟨folder name⟩) := by
  refine ⟨lastPart name, normal, ?_⟩
  rw [join_eq_append, components_append (isOpen_join directory (isOpen_folder name)) normal]

/-- Components are added one at a time. -/
theorem isChildOf_iff_of_isChildOf {path folder directory : Path} (child : path.IsChildOf folder) :
    path.IsChildOf directory ↔ folder.components = directory.components := by
  obtain ⟨name, normal, added⟩ := child
  constructor
  · rintro ⟨other, _, other_added⟩
    exact (List.append_inj' (added.symm.trans other_added) rfl).1
  · intro same
    exact ⟨name, normal, added.trans (congrArg (· ++ [name]) same)⟩

theorem isChildOf_join (directory : Path) {name : String} (normal : IsNormal name) :
    (directory.join ⟨name⟩).IsChildOf directory := by
  have no_folder : folder name = "" := folder_eq_empty_iff.mpr normal.1
  have whole : lastPart name = name := by
    have split := folder_append_lastPart name
    rwa [no_folder, String.empty_append] at split
  have child := isChildOf_folder directory (whole.symm ▸ normal)
  rw [no_folder] at child
  exact (isChildOf_iff_of_isChildOf child).mpr (components_join_empty directory)

end Path

/-- The paths that a generation returns are those of its forms, two for each. Each is the directory
joined with one name just when the name of the definition has no slash; what such a name has before
its last slash is joined as a folder, and the file is a child of the directory when this folder adds
nothing to it. -/
theorem writeGeneration_paths {generation : Generation} {directory : Path}
    {before after : Workspace} {written : List Path}
    (done : (writeGeneration generation directory : StateM Workspace _).run before =
      (.ok written, after)) :
    written = generation.forms.flatMap (fun form =>
      [directory.join ⟨form.formFile⟩, directory.join ⟨form.localesFile⟩]) ∧
    ∀ form ∈ generation.forms, ∀ file ∈ [form.formFile, form.localesFile],
      let folder := directory.join ⟨Path.folder (Text.kebabCase form.definition)⟩
      (Path.IsNormal file ↔ '/' ∉ form.definition.toList) ∧
      ('/' ∉ form.definition.toList → (directory.join ⟨file⟩).IsChildOf directory) ∧
      (directory.join ⟨file⟩).IsChildOf folder ∧
      ((directory.join ⟨file⟩).IsChildOf directory ↔
        folder.components = directory.components) := by
  obtain ⟨between, _, wrote⟩ := Workspace.run_writeGeneration.mp done
  refine ⟨?_, ?_⟩
  · rw [Workspace.written_of_writeFiles wrote, List.map_flatMap]
    rfl
  · intro form _ file member folder
    have single := GeneratedForm.isNormal_file_iff member
    have child : (directory.join ⟨file⟩).IsChildOf folder := by
      have below := Path.isChildOf_folder directory (GeneratedForm.isNormal_lastPart_file member)
      rwa [GeneratedForm.folder_file member] at below
    exact ⟨single, fun plain => Path.isChildOf_join directory (single.mpr plain), child,
      Path.isChildOf_iff_of_isChildOf child⟩

/-- Orders, and orders whose name is like a path. -/
def pathOrders : Generator :=
  { schema := { definitions := .ofEntries [("Order", {}), ("../Order", {})] }, rules := {} }

def pathOrdersWritten : List Path :=
  [⟨"out/order-update.json"⟩, ⟨"out/order-update-locales.json"⟩, ⟨"out/order-create.json"⟩,
   ⟨"out/order-create-locales.json"⟩, ⟨"out/../order-update.json"⟩,
   ⟨"out/../order-update-locales.json"⟩, ⟨"out/../order-create.json"⟩,
   ⟨"out/../order-create-locales.json"⟩]

/-- The workspace in which the forms of these orders have been written to a new directory. -/
def pathOrdersWorkspace : Workspace :=
  ((writeGeneration pathOrders.generate ⟨"out"⟩ : StateM Workspace _).run {}).2

theorem run_pathOrders :
    (writeGeneration pathOrders.generate ⟨"out"⟩ : StateM Workspace _).run {} =
      (.ok pathOrdersWritten, pathOrdersWorkspace) := by
  have outcome : ((writeGeneration pathOrders.generate ⟨"out"⟩ : StateM Workspace _).run {}).1 =
      .ok pathOrdersWritten := by
    decide +kernel
  rw [pathOrdersWorkspace, ← outcome]
  exact (Prod.eta _).symm

theorem pathOrders_paths :
    (writeGeneration pathOrders.generate ⟨"out"⟩ : StateM Workspace _).run {} =
        (.ok pathOrdersWritten, pathOrdersWorkspace) ∧
      (⟨"out/order-update.json"⟩ : Path).IsChildOf ⟨"out"⟩ := by
  obtain ⟨_, each⟩ := writeGeneration_paths run_pathOrders
  have ordered : ∃ form ∈ pathOrders.generate.forms, form.definition = "Order" ∧
      form.formFile = "order-update.json" := by
    decide +kernel
  obtain ⟨form, generated, named, file_eq⟩ := ordered
  have child := (each form generated form.formFile form.formFile_mem).2.1
  rw [named, file_eq] at child
  exact ⟨run_pathOrders, child (by decide)⟩

/-- The form is written beside the directory. -/
theorem pathOrders_leave_directory :
    (writeGeneration pathOrders.generate ⟨"out"⟩ : StateM Workspace _).run {} =
        (.ok pathOrdersWritten, pathOrdersWorkspace) ∧
      (⟨"out/../order-update.json"⟩ : Path) ∈ pathOrdersWritten ∧
      ¬ (⟨"out/../order-update.json"⟩ : Path).IsChildOf ⟨"out"⟩ ∧
      (¬ ∃ name, Path.IsNormal name ∧
        (⟨"out/../order-update.json"⟩ : Path) = (⟨"out"⟩ : Path).join ⟨name⟩) ∧
      pathOrdersWorkspace.isPresent ⟨"order-update.json"⟩ = true := by
  have no_child : ¬ (⟨"out/../order-update.json"⟩ : Path).IsChildOf ⟨"out"⟩ := by
    rintro ⟨name, _, added⟩
    have lengths := congrArg List.length added
    rw [List.length_append, List.length_singleton] at lengths
    exact absurd lengths (by decide +kernel)
  refine ⟨run_pathOrders, by decide, no_child, ?_, by decide +kernel⟩
  rintro ⟨name, normal, same⟩
  exact no_child (same ▸ Path.isChildOf_join ⟨"out"⟩ normal)

end SchemaForms
