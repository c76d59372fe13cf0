import SchemaForms.Proofs.ArtifactPaths
import SchemaForms.Proofs.BatchGeneration
import SchemaForms.Proofs.FormLabels
import SchemaForms.Proofs.JsonText
/-! What the files of a generation hold. Names of definitions that are converted alike give files of
one name, and only the forms that are written last are read there. -/
namespace SchemaForms

namespace Workspace
variable {workspace : Workspace} {directory : Path}

/-- Both documents of the form are read from its files. -/
structure Holds (workspace : Workspace) (directory : Path) (form : GeneratedForm) : Prop where
  formRead : workspace.read (directory.join ⟨form.formFile⟩) = .ok form.formText
  localesRead : workspace.read (directory.join ⟨form.localesFile⟩) = .ok form.localesText

/-- The paths of both forms lead to the same files. -/
def SharesFiles (workspace : Workspace) (directory : Path) (first second : GeneratedForm) : Prop :=
  workspace.locate (directory.join ⟨first.formFile⟩) =
    workspace.locate (directory.join ⟨second.formFile⟩)

/-- A file stands in the folder that is named in front of it. -/
theorem locate_file_ok_iff {operation : Operation} {ending stem : String}
    (among : ending ∈ operation.endings) {location : Location} :
    workspace.locate (directory.join ⟨stem ++ ending⟩) = .ok location ↔
      ∃ folder, workspace.enter (directory.join ⟨Path.folder stem⟩) = .ok folder ∧
        workspace.root.kindAt? folder = some .directory ∧
        location = folder ++ [Path.lastPart stem ++ ending] := by
  have plain := Operation.slash_not_mem_ending among
  rw [Path.join_eq_append, Path.folder_append plain, Path.lastPart_append plain]
  exact locate_append_ok_iff (Path.isOpen_join directory (Path.isOpen_folder stem))
    (Operation.isNormal_append_ending among (Path.slash_not_mem_lastPart stem))

/-- Files that stand at one location are of the same operation and kind. Their names end alike, and
with another ending they stand at one location too. -/
theorem same_of_locate {operation operation' : Operation} {stem stem' ending ending' : String}
    {location : Location} (among : ending ∈ operation.endings)
    (among' : ending' ∈ operation'.endings)
    (leads : workspace.locate (directory.join ⟨stem ++ ending⟩) = .ok location)
    (leads' : workspace.locate (directory.join ⟨stem' ++ ending'⟩) = .ok location) :
    operation = operation' ∧ ending = ending' ∧ Path.lastPart stem = Path.lastPart stem' ∧
      ∀ other ∈ operation.endings, ∀ place,
        workspace.locate (directory.join ⟨stem ++ other⟩) = .ok place ↔
          workspace.locate (directory.join ⟨stem' ++ other⟩) = .ok place := by
  obtain ⟨folder, entered, _, rfl⟩ := (locate_file_ok_iff among).mp leads
  obtain ⟨folder', entered', _, same⟩ := (locate_file_ok_iff among').mp leads'
  obtain ⟨rfl, names⟩ := List.append_inj' same rfl
  obtain ⟨rfl, rfl, parts⟩ := Operation.append_ending_inj among among' (List.cons.inj names).1
  refine ⟨rfl, rfl, parts, fun other member place => ?_⟩
  rw [locate_file_ok_iff member, locate_file_ok_iff member, entered, entered', parts]

theorem read_congr {path path' : Path} {location : Location}
    (leads : workspace.locate path = .ok location)
    (leads' : workspace.locate path' = .ok location) :
    workspace.read path = workspace.read path' := by
  rw [read, nodeAt, leads, read, nodeAt, leads']

section
variable {form other : GeneratedForm} {file file' : String} {place location : Location}

/-- Forms that have a file at one location share both files. -/
theorem sharesFiles_of_locate (member : file ∈ [form.formFile, form.localesFile])
    (member' : file' ∈ [other.formFile, other.localesFile])
    (stands : workspace.locate (directory.join ⟨form.formFile⟩) = .ok place)
    (leads : workspace.locate (directory.join ⟨file⟩) = .ok location)
    (leads' : workspace.locate (directory.join ⟨file'⟩) = .ok location) :
    workspace.SharesFiles directory other form := by
  obtain ⟨ending, among, rfl⟩ := GeneratedForm.exists_ending_of_file member
  obtain ⟨ending', among', rfl⟩ := GeneratedForm.exists_ending_of_file member'
  obtain ⟨operations, _, _, everywhere⟩ := same_of_locate among among' leads leads'
  rw [form.formFile_eq] at stands
  have other_stands := (everywhere _ form.operation.formEnding_mem place).mp stands
  rw [SharesFiles, form.formFile_eq, other.formFile_eq, ← operations, other_stands, stands]

/-- Forms that share files are of one operation, and share their locale maps too. -/
theorem SharesFiles.same (shares : workspace.SharesFiles directory other form)
    (stands : workspace.locate (directory.join ⟨form.formFile⟩) = .ok place) :
    other.operation = form.operation ∧
      Path.lastPart (Text.kebabCase other.definition) =
        Path.lastPart (Text.kebabCase form.definition) ∧
      ∀ location, workspace.locate (directory.join ⟨other.localesFile⟩) = .ok location ↔
        workspace.locate (directory.join ⟨form.localesFile⟩) = .ok location := by
  have other_stands := shares.trans stands
  rw [form.formFile_eq] at stands
  rw [other.formFile_eq] at other_stands
  obtain ⟨operations, _, parts, everywhere⟩ := same_of_locate other.operation.formEnding_mem
    form.operation.formEnding_mem other_stands stands
  refine ⟨operations, parts, fun location => ?_⟩
  rw [form.localesFile_eq, other.localesFile_eq, ← operations]
  exact everywhere _ other.operation.localesEnding_mem location

/-- Without slashes in their names, forms share their files when these are named alike. -/
theorem sharesFiles_iff_of_plain (plain : '/' ∉ form.definition.toList)
    (other_plain : '/' ∉ other.definition.toList)
    (stands : workspace.locate (directory.join ⟨form.formFile⟩) = .ok place) :
    workspace.SharesFiles directory other form ↔
      other.operation = form.operation ∧
        Text.kebabCase other.definition = Text.kebabCase form.definition := by
  constructor
  · intro shares
    obtain ⟨operations, parts, _⟩ := shares.same stands
    have whole {definition : String} (no_slash : '/' ∉ definition.toList) :
        Path.lastPart (Text.kebabCase definition) = Text.kebabCase definition :=
      Path.lastPart_of_not_mem (mt Text.slash_mem_kebabCase_iff.mp no_slash)
    rw [whole plain, whole other_plain] at parts
    exact ⟨operations, parts⟩
  · rintro ⟨operations, names⟩
    rw [SharesFiles, form.formFile_eq, other.formFile_eq, operations, names]

end

theorem file_mem_of_artifact {form : GeneratedForm} {artifact : String × String}
    (member : artifact ∈ form.artifacts) : artifact.1 ∈ [form.formFile, form.localesFile] :=
  List.mem_map_of_mem (f := Prod.fst) member

theorem isNormal_of_artifacts {forms : List GeneratedForm} :
    ∀ artifact ∈ forms.flatMap GeneratedForm.artifacts,
      Path.IsNormal (Path.lastPart artifact.1) := by
  intro artifact member
  obtain ⟨form, _, among⟩ := List.mem_flatMap.mp member
  exact GeneratedForm.isNormal_lastPart_file (file_mem_of_artifact among)

section
variable {before after : Workspace} {written : List Path} {forms earlier later : List GeneratedForm}
  {form : GeneratedForm}

theorem exists_locate_of_form
    (done : (writeFiles directory (forms.flatMap GeneratedForm.artifacts) :
      StateM Workspace _).run before = (.ok written, after)) (member : form ∈ forms)
    {file : String} (own : file ∈ [form.formFile, form.localesFile]) :
    ∃ place, after.locate (directory.join ⟨file⟩) = .ok place := by
  have files_eq : form.artifacts.map Prod.fst = [form.formFile, form.localesFile] := rfl
  rw [← files_eq] at own
  obtain ⟨artifact, of_form, rfl⟩ := List.mem_map.mp own
  exact exists_locate_of_writeFiles isNormal_of_artifacts done artifact
    (List.mem_flatMap.mpr ⟨form, member, of_form⟩)

/-- A form of which no later one shares the files is read from them. -/
theorem holds_of_none_later
    (done : (writeFiles directory (forms.flatMap GeneratedForm.artifacts) :
      StateM Workspace _).run before = (.ok written, after))
    (split : forms = earlier ++ form :: later)
    (last : ∀ other ∈ later, ¬ after.SharesFiles directory other form) :
    after.Holds directory form := by
  have member : form ∈ forms := by simp [split]
  obtain ⟨place, stands⟩ := exists_locate_of_form done member form.formFile_mem
  obtain ⟨locales_place, locales_stand⟩ := exists_locate_of_form done member form.localesFile_mem
  have form_first : forms.flatMap GeneratedForm.artifacts =
      earlier.flatMap GeneratedForm.artifacts ++ (form.formFile, form.formText) ::
        ((form.localesFile, form.localesText) :: later.flatMap GeneratedForm.artifacts) := by
    rw [split, List.flatMap_append, List.flatMap_cons]
    rfl
  have locales_first : forms.flatMap GeneratedForm.artifacts =
      (earlier.flatMap GeneratedForm.artifacts ++ [(form.formFile, form.formText)]) ++
        (form.localesFile, form.localesText) :: later.flatMap GeneratedForm.artifacts := by
    rw [form_first, List.append_assoc]
    rfl
  have apart {file : String} (own : file ∈ [form.formFile, form.localesFile]) {location : Location}
      (leads : after.locate (directory.join ⟨file⟩) = .ok location) :
      ∀ artifact ∈ later.flatMap GeneratedForm.artifacts,
        after.locate (directory.join ⟨artifact.1⟩) ≠ after.locate (directory.join ⟨file⟩) := by
    intro artifact among same
    obtain ⟨other, in_later, of_other⟩ := List.mem_flatMap.mp among
    exact last other in_later (sharesFiles_of_locate own (file_mem_of_artifact of_other) stands
      leads (same.trans leads))
  have own_apart : after.locate (directory.join ⟨form.localesFile⟩) ≠
      after.locate (directory.join ⟨form.formFile⟩) := by
    intro same
    have locales_at := same.trans stands
    rw [form.localesFile_eq] at locales_at
    rw [form.formFile_eq] at stands
    exact form.operation.formEnding_ne_localesEnding (same_of_locate form.operation.formEnding_mem
      form.operation.localesEnding_mem stands locales_at).2.1
  have normal : ∀ artifact ∈ forms.flatMap GeneratedForm.artifacts,
      Path.IsNormal (Path.lastPart artifact.1) := isNormal_of_artifacts
  refine ⟨?_, ?_⟩
  · rw [form_first] at done normal
    exact read_of_writeFiles normal done
      (List.forall_mem_cons.mpr ⟨own_apart, apart form.formFile_mem stands⟩)
  · rw [locales_first] at done normal
    exact read_of_writeFiles normal done
      (apart form.localesFile_mem locales_stand)

/-- The files of a form hold the last form that shares them. -/
theorem exists_holds_last
    (done : (writeFiles directory (forms.flatMap GeneratedForm.artifacts) :
      StateM Workspace _).run before = (.ok written, after))
    (split : forms = earlier ++ later) {shared : GeneratedForm} (member : shared ∈ later)
    (shares : after.SharesFiles directory shared form) :
    ∃ last ∈ later, after.SharesFiles directory last form ∧ after.Holds directory last := by
  obtain ⟨first, last, rest, rfl, last_shares, none_later⟩ :=
    exists_last_of_mem (after.SharesFiles directory · form) member shares
  rw [← List.append_assoc] at split
  have holds : after.Holds directory last :=
    holds_of_none_later done split fun other among other_shares =>
      none_later other among (other_shares.trans last_shares)
  exact ⟨last, by simp, last_shares, holds⟩

end
end Workspace

namespace Generator
variable {generator : Generator} {form other : GeneratedForm}

/-- A locale map starts with the name of the definition. -/
theorem exists_locales_cons (member : form ∈ generator.generate.forms) :
    ∃ rest, form.locales.entries =
      ((LocaleKey.root form.definition form.operation).path, form.definition) :: rest := by
  rw [generate_eq] at member
  obtain ⟨definition, rules, _, _, _, built⟩ :=
    generateForm_ok_iff.mp (mem_forms_concat.mp member).2
  obtain ⟨properties, fields, _, made, form_eq⟩ := Schema.buildForm_ok_iff.mp built
  obtain ⟨rest, entries_eq⟩ := FormScope.exists_locales_cons made
  refine ⟨rest, ?_⟩
  rw [form_eq]
  exact entries_eq

/-- Definitions can be told from the texts of their locale maps. -/
theorem definition_eq_of_localesText (member : form ∈ generator.generate.forms)
    (other_member : other ∈ generator.generate.forms)
    (same : form.localesText = other.localesText) : form.definition = other.definition := by
  have text_eq (form : GeneratedForm) : form.localesText =
      (Json.object (form.locales.entries.map fun entry => (entry.1, .string entry.2))).pretty := rfl
  obtain ⟨rest, entries_eq⟩ := exists_locales_cons member
  obtain ⟨other_rest, other_entries_eq⟩ := exists_locales_cons other_member
  rw [text_eq, text_eq, entries_eq, other_entries_eq] at same
  exact (Json.pretty_object_cons_inj same).2

section
variable {directory : Path} {before after : Workspace} {written : List Path}
  {earlier later : List GeneratedForm}

/-- A form whose files a later one shares has lost its locale map, which starts with the name of
another definition then. -/
theorem not_sharesFiles_of_holds
    (wrote : (writeFiles directory (generator.generate.forms.flatMap GeneratedForm.artifacts) :
      StateM Workspace _).run before = (.ok written, after))
    (split : generator.generate.forms = earlier ++ form :: later)
    (holds : after.Holds directory form) :
    ∀ other ∈ later, ¬ after.SharesFiles directory other form := by
  intro other among shares
  have member : form ∈ generator.generate.forms := by simp [split]
  obtain ⟨place, stands⟩ := Workspace.exists_locate_of_form wrote member form.formFile_mem
  obtain ⟨locales_place, locales_stand⟩ :=
    Workspace.exists_locate_of_form wrote member form.localesFile_mem
  have later_split : generator.generate.forms = (earlier ++ [form]) ++ later := by
    rw [split, List.append_assoc, List.singleton_append]
  obtain ⟨last, in_later, last_shares, last_holds⟩ :=
    Workspace.exists_holds_last wrote later_split among shares
  have last_member : last ∈ generator.generate.forms := by simp [split, in_later]
  obtain ⟨operations, _, same_locales⟩ := last_shares.same stands
  have texts : form.localesText = last.localesText := by
    have read_last := last_holds.localesRead
    rw [Workspace.read_congr ((same_locales _).mpr locales_stand) locales_stand,
      holds.localesRead] at read_last
    exact Except.ok.inj read_last
  have nodup := nodup_pairs_of_forms generator
  rw [split, List.map_append, List.map_cons, List.nodup_append_comm, List.cons_append,
    List.nodup_cons] at nodup
  apply nodup.1
  rw [definition_eq_of_localesText member last_member texts, ← operations]
  exact List.mem_append_left _ (List.mem_map_of_mem in_later)

/-- When a generation has been written, both documents of a form are read from its files exactly
when no later form shares the files, and the files hold the last form that shares them in any case.
Forms whose definitions have no slash in their names share files when they are of one operation and
the names are converted alike. -/
theorem writeGeneration_holds
    (done : (writeGeneration generator.generate directory : StateM Workspace _).run before =
      (.ok written, after))
    (split : generator.generate.forms = earlier ++ form :: later) :
    (after.Holds directory form ↔ ∀ other ∈ later, ¬ after.SharesFiles directory other form) ∧
    (∃ last ∈ form :: later,
      after.SharesFiles directory last form ∧ after.Holds directory last) ∧
    ((∀ other ∈ generator.generate.forms, '/' ∉ other.definition.toList) →
      (after.Holds directory form ↔ ∀ other ∈ later, other.operation = form.operation →
        Text.kebabCase other.definition ≠ Text.kebabCase form.definition)) := by
  obtain ⟨between, _, wrote⟩ := Workspace.run_writeGeneration.mp done
  have member : form ∈ generator.generate.forms := by simp [split]
  obtain ⟨place, stands⟩ := Workspace.exists_locate_of_form wrote member form.formFile_mem
  have holds_iff : after.Holds directory form ↔
      ∀ other ∈ later, ¬ after.SharesFiles directory other form :=
    ⟨not_sharesFiles_of_holds wrote split, Workspace.holds_of_none_later wrote split⟩
  refine ⟨holds_iff, Workspace.exists_holds_last wrote split List.mem_cons_self rfl, ?_⟩
  intro plain
  rw [holds_iff]
  refine forall₂_congr fun other among => ?_
  have other_member : other ∈ generator.generate.forms := by simp [split, among]
  rw [Workspace.sharesFiles_iff_of_plain (plain form member) (plain other other_member) stands,
    not_and]

end
end Generator

/-- Two definitions whose names are converted to the same words. -/
def orderItems : Generator :=
  { schema := { definitions := .ofEntries [("OrderItem", {}), ("order_item", {})] }, rules := {} }

def itemForm (definition : String) (operation : Operation) : GeneratedForm :=
  let root := LocaleKey.root definition operation
  { definition, operation
    form := { title := root, sections := [⟨[Field.submit (root.child "save")]⟩] }
    locales := .ofEntries [(root.path, definition), ((root.child "save").path, "Save")] }

theorem generate_orderItems :
    orderItems.generate.forms =
      [itemForm "OrderItem" .update, itemForm "OrderItem" .create] ++
        itemForm "order_item" .update :: [itemForm "order_item" .create] := by
  decide +kernel

def orderItemsWritten : List Path :=
  let files : List Path :=
    [⟨"out/order-item-update.json"⟩, ⟨"out/order-item-update-locales.json"⟩,
     ⟨"out/order-item-create.json"⟩, ⟨"out/order-item-create-locales.json"⟩]
  files ++ files

def orderItemsWorkspace : Workspace :=
  ((writeGeneration orderItems.generate ⟨"out"⟩ : StateM Workspace _).run {}).2

theorem run_orderItems :
    (writeGeneration orderItems.generate ⟨"out"⟩ : StateM Workspace _).run {} =
      (.ok orderItemsWritten, orderItemsWorkspace) := by
  have outcome : ((writeGeneration orderItems.generate ⟨"out"⟩ : StateM Workspace _).run {}).1 =
      .ok orderItemsWritten := by
    decide +kernel
  rw [orderItemsWorkspace, ← outcome]
  exact (Prod.eta _).symm

theorem orderItems_holds_last :
    (writeGeneration orderItems.generate ⟨"out"⟩ : StateM Workspace _).run {} =
        (.ok orderItemsWritten, orderItemsWorkspace) ∧
      (∀ other ∈ orderItems.generate.forms, '/' ∉ other.definition.toList) ∧
      orderItemsWorkspace.Holds ⟨"out"⟩ (itemForm "order_item" .update) := by
  have plain : ∀ other ∈ orderItems.generate.forms, '/' ∉ other.definition.toList := by
    rw [generate_orderItems]
    decide +kernel
  have holds_iff := (Generator.writeGeneration_holds run_orderItems generate_orderItems).2.2
  refine ⟨run_orderItems, plain, (holds_iff plain).mpr fun other among same => ?_⟩
  rw [List.mem_singleton.mp among] at same
  cases same

/-- The forms of the first definition are gone, though their paths are returned. -/
theorem orderItems_lose_first :
    (writeGeneration orderItems.generate ⟨"out"⟩ : StateM Workspace _).run {} =
        (.ok orderItemsWritten, orderItemsWorkspace) ∧
      itemForm "OrderItem" .update ∈ orderItems.generate.forms ∧
      orderItemsWorkspace.read
          ((⟨"out"⟩ : Path).join ⟨(itemForm "OrderItem" .update).localesFile⟩) =
        .ok (itemForm "order_item" .update).localesText ∧
      ¬ orderItemsWorkspace.Holds ⟨"out"⟩ (itemForm "OrderItem" .update) := by
  obtain ⟨_, _, wrote⟩ := Workspace.run_writeGeneration.mp run_orderItems
  have first_among : itemForm "OrderItem" .update ∈ orderItems.generate.forms := by
    rw [generate_orderItems]
    simp
  have last_among : itemForm "order_item" .update ∈ orderItems.generate.forms := by
    rw [generate_orderItems]
    simp
  have last_holds : orderItemsWorkspace.Holds ⟨"out"⟩ (itemForm "order_item" .update) := by
    obtain ⟨_, stands⟩ := Workspace.exists_locate_of_form wrote last_among
      (GeneratedForm.formFile_mem _)
    refine Workspace.holds_of_none_later wrote generate_orderItems fun other among shares => ?_
    have same := (shares.same stands).1
    rw [List.mem_singleton.mp among] at same
    cases same
  have same_file : (itemForm "OrderItem" .update).localesFile =
      (itemForm "order_item" .update).localesFile := by
    decide +kernel
  have read_first := last_holds.localesRead
  rw [← same_file] at read_first
  refine ⟨run_orderItems, first_among, read_first, fun holds => ?_⟩
  have texts := Except.ok.inj (holds.localesRead.symm.trans read_first)
  have definitions := Generator.definition_eq_of_localesText first_among last_among texts
  exact absurd definitions (by decide)

end SchemaForms
