import SchemaForms.Proofs.ArtifactFiles
import SchemaForms.Proofs.Directories
import SchemaForms.Yaml.Documents
/-! Runs of a target. Until there is a generator the workspace is not touched. After that a run that
reports has created what was missing of one directory and written the files of every form that was
generated, and nothing else. -/
namespace SchemaForms

/-- The paths of the files of a form, in the order of writing. -/
def GeneratedForm.paths (form : GeneratedForm) (directory : Path) : List Path :=
  [directory.join ⟨form.formFile⟩, directory.join ⟨form.localesFile⟩]

theorem GeneratedForm.paths_of_artifacts (forms : List GeneratedForm) (directory : Path) :
    ((forms.flatMap artifacts).map fun file => directory.join ⟨file.1⟩) =
      forms.flatMap (paths · directory) := by
  rw [List.map_flatMap]
  rfl

namespace Workspace

/-- Files that are written into a directory one after another. -/
def writeAll (workspace : Workspace) (directory : Path) (files : List (String × String)) :
    Except IoError Workspace :=
  files.foldlM (fun current file => current.write (directory.join ⟨file.1⟩) file.2) workspace

section
variable {before after : Workspace}

theorem run_writeFiles_ok_iff {directory : Path} {files : List (String × String)}
    {written : List Path} :
    (writeFiles directory files : StateM Workspace _).run before = (.ok written, after) ↔
      before.writeAll directory files = .ok after ∧
        written = files.map fun file => directory.join ⟨file.1⟩ := by
  induction files generalizing before written with
  | nil =>
    have run_eq : (writeFiles directory [] : StateM Workspace _).run before =
        (.ok [], before) := rfl
    have all_eq : before.writeAll directory [] = .ok before := rfl
    rw [run_eq, all_eq, Prod.mk.injEq, Except.ok.injEq, Except.ok.injEq, List.map_nil]
    exact ⟨fun ⟨nothing, same⟩ => ⟨same, nothing.symm⟩, fun ⟨same, nothing⟩ => ⟨nothing.symm, same⟩⟩
  | cons file rest ih =>
    rw [run_writeFiles_cons, writeAll, List.foldlM_cons, bind_ok_iff, List.map_cons]
    constructor
    · rintro ⟨between, later, wrote, others, rfl⟩
      obtain ⟨all, rfl⟩ := ih.mp others
      exact ⟨⟨between, wrote, all⟩, rfl⟩
    · rintro ⟨⟨between, wrote, all⟩, rfl⟩
      exact ⟨between, _, wrote, ih.mpr ⟨all, rfl⟩, rfl⟩

theorem directory_of_writeAll {directory : Path} {files : List (String × String)}
    (wrote : before.writeAll directory files = .ok after) : after.directory = before.directory := by
  induction files generalizing before with
  | nil =>
    cases wrote
    rfl
  | cons file rest ih =>
    rw [writeAll, List.foldlM_cons, bind_ok_iff] at wrote
    obtain ⟨between, first, others⟩ := wrote
    obtain ⟨location, _, _, rfl⟩ := write_ok_iff.mp first
    exact (ih others).trans rfl

theorem run_readSource {α : Type} [Readable α] (kind : String) (path : Path) (before : Workspace) :
    (readSource kind path : StateM Workspace (Except Failure α)).run before =
      (match before.read path with
        | .error error => .error ⟨["Failed to read " ++ kind ++ " " ++ path.text], .io error⟩
        | .ok source =>
          match Readable.ofText? source with
          | none => .error ⟨["Failed to parse " ++ kind ++ " " ++ path.text], .malformed⟩
          | some value => .ok value,
       before) := by
  have read_eq : (FileAccess.read path : StateM Workspace _).run before =
      (before.read path, before) := rfl
  rw [readSource, StateT.run_bind, read_eq]
  cases before.read path with
  | error error => rfl
  | ok source =>
    cases parsed : (Readable.ofText? source : Option α) with
    | none => simp only [parsed, bind]; rfl
    | some value => simp only [parsed, bind]; rfl

/-- What stops a run before there is a generator. -/
def Stops [Readable Schema] (workspace : Workspace) (name : String) (target : Target)
    (projectDirectory : Path) (failure : Failure) : Prop :=
  let path := target.schemaPath projectDirectory
  (∃ error, workspace.read path = .error error ∧
    failure = ⟨["Failed to read schema " ++ path.text], .io error⟩) ∨
  ∃ source, workspace.read path = .ok source ∧
    (((Readable.ofText? source : Option Schema) = none ∧
        failure = ⟨["Failed to parse schema " ++ path.text], .malformed⟩) ∨
      ∃ schema error, Readable.ofText? source = some schema ∧
        Generator.prepare schema target.rules = .error error ∧
        failure = ⟨["Failed to prepare target " ++ name], .form error⟩)

/-- The generator of a run that is not stopped. -/
def Prepares [Readable Schema] (workspace : Workspace) (target : Target) (projectDirectory : Path)
    (generator : Generator) : Prop :=
  ∃ source schema, workspace.read (target.schemaPath projectDirectory) = .ok source ∧
    Readable.ofText? source = some schema ∧ Generator.prepare schema target.rules = .ok generator

theorem stops_or_prepares [Readable Schema] (workspace : Workspace) (name : String)
    (target : Target) (projectDirectory : Path) :
    (∃ failure, workspace.Stops name target projectDirectory failure) ∨
      ∃ generator, workspace.Prepares target projectDirectory generator := by
  cases read : workspace.read (target.schemaPath projectDirectory) with
  | error error => exact .inl ⟨_, .inl ⟨error, read, rfl⟩⟩
  | ok source =>
    cases parsed : (Readable.ofText? source : Option Schema) with
    | none => exact .inl ⟨_, .inr ⟨source, read, .inl ⟨parsed, rfl⟩⟩⟩
    | some schema =>
      cases prepared : Generator.prepare schema target.rules with
      | error error =>
        exact .inl ⟨_, .inr ⟨source, read, .inr ⟨schema, error, parsed, prepared, rfl⟩⟩⟩
      | ok generator => exact .inr ⟨generator, source, schema, read, parsed, prepared⟩

/-- A run that is stopped has changed nothing. -/
theorem run_runTarget_of_stops [Readable Schema] {name : String} {target : Target}
    {projectDirectory : Path} {failure : Failure}
    (stops : before.Stops name target projectDirectory failure) :
    (runTarget name target projectDirectory : StateM Workspace _).run before =
      (.error failure, before) := by
  rw [runTarget, StateT.run_bind, readSchema, run_readSource]
  rcases stops with ⟨error, unread, rfl⟩ | ⟨source, read, stops⟩
  · rw [unread]
    rfl
  · rw [read]
    rcases stops with ⟨unparsed, rfl⟩ | ⟨schema, error, parsed, unprepared, rfl⟩
    · simp only [unparsed]
      rfl
    · simp only [parsed, bind, unprepared]
      rfl

theorem run_runTarget_of_prepares [Readable Schema] {target : Target}
    {projectDirectory : Path} {generator : Generator}
    (prepares : before.Prepares target projectDirectory generator)
    (name : String) :
    (runTarget name target projectDirectory : StateM Workspace _).run before =
      (writeReport name generator.generate (target.directoryPath projectDirectory) :
        StateM Workspace _).run before := by
  obtain ⟨source, schema, read, parsed, prepared⟩ := prepares
  rw [runTarget, StateT.run_bind, readSchema, run_readSource, read]
  simp only [parsed, bind, prepared]

theorem run_writeReport_ok_iff {name : String} {generation : Generation} {directory : Path}
    {report : Report} :
    (writeReport name generation directory : StateM Workspace _).run before =
        (.ok report, after) ↔
      ∃ written, (writeGeneration generation directory : StateM Workspace _).run before =
          (.ok written, after) ∧
        report = { name, written, failures := generation.failures } := by
  rw [writeReport, run_bind_ok_iff]
  · constructor
    · rintro ⟨written, between, wrote, same⟩
      cases same
      exact ⟨written, wrote, rfl⟩
    · rintro ⟨written, wrote, rfl⟩
      exact ⟨written, after, wrote, rfl⟩
  · exact fun failure => ⟨failure, rfl⟩

/-- The directory is there or can be created, and the files of all forms can be written to it. -/
def WritesForms (before : Workspace) (directory : Path) (forms : List GeneratedForm)
    (after : Workspace) : Prop :=
  ∃ between, (createDirectories directory : StateM Workspace _).run before = (.ok (), between) ∧
    between.writeAll directory (forms.flatMap GeneratedForm.artifacts) = .ok after

/-- Nothing has changed but where these paths lead, and that directories stand where nothing was. -/
structure ChangesOnly (before : Workspace) (paths : List Path) (after : Workspace) : Prop where
  directory : after.directory = before.directory
  kinds : ∀ location, (∀ path ∈ paths, after.locate path ≠ .ok location) →
    after.root.kindAt? location = before.root.kindAt? location ∨
      before.root.kindAt? location = none ∧ after.root.kindAt? location = some .directory

theorem run_writeGeneration_ok_iff {generation : Generation} {directory : Path}
    {written : List Path} :
    (writeGeneration generation directory : StateM Workspace _).run before =
        (.ok written, after) ↔
      before.WritesForms directory generation.forms after ∧
        written = generation.forms.flatMap (·.paths directory) := by
  rw [run_writeGeneration]
  simp only [run_writeFiles_ok_iff, GeneratedForm.paths_of_artifacts, WritesForms]
  constructor
  · rintro ⟨between, created, wrote, rfl⟩
    exact ⟨⟨between, created, wrote⟩, rfl⟩
  · rintro ⟨⟨between, created, wrote⟩, rfl⟩
    exact ⟨between, created, wrote, rfl⟩

/-- Forms are written to their files and nowhere else. -/
theorem changesOnly_of_writesForms {directory : Path} {forms : List GeneratedForm}
    (writes : before.WritesForms directory forms after) :
    before.ChangesOnly (forms.flatMap (·.paths directory)) after := by
  obtain ⟨between, created, wrote⟩ := writes
  have grown : before.Extends between := by
    have grows := grows_createNested directory.ancestors before
    rwa [← createDirectories, created] at grows
  have done := run_writeFiles_ok_iff.mpr ⟨wrote, rfl⟩
  refine ⟨(directory_of_writeAll wrote).trans grown.directory, fun location elsewhere => ?_⟩
  have same : after.root.kindAt? location = between.root.kindAt? location := by
    refine kindAt?_of_writeFiles isNormal_of_artifacts done fun file among => ?_
    apply elsewhere
    rw [← GeneratedForm.paths_of_artifacts]
    exact List.mem_map_of_mem among
  rw [same]
  exact grown.kinds location

end
end Workspace

/-- A form that can be generated is in the batch, whatever fails beside it. -/
theorem Generator.mem_forms_generate {generator : Generator} {name : String}
    {operation : Operation} {form : GeneratedForm}
    (generated : generator.generateForm name operation = .ok (some form)) :
    form ∈ generator.generate.forms := by
  obtain ⟨rfl, rfl⟩ := names_of_generateForm generated
  rw [generate_eq, mem_forms_concat]
  exact ⟨mem_pairs_iff.mpr (known_of_generateForm generated), generated⟩

/-- A run is stopped by a schema that cannot be read, parsed or prepared, and has changed nothing
then. If it is not stopped, it reports just when the directory and all files can be written. The
report lists the two files of each form that was generated, in order, and the failures of the
generation; nothing else has changed, and no form is missing because others failed. All this holds
whichever texts are read as schemas, and as which. -/
theorem runTarget_all_or_nothing [Readable Schema] (before : Workspace) (name : String)
    (target : Target) (projectDirectory : Path) :
    let run := (runTarget name target projectDirectory : StateM Workspace _).run before
    let directory := target.directoryPath projectDirectory
    ((∃ failure, before.Stops name target projectDirectory failure) ∨
      ∃ generator, before.Prepares target projectDirectory generator) ∧
    (∀ failure, before.Stops name target projectDirectory failure →
      run = (.error failure, before)) ∧
    ∀ generator, before.Prepares target projectDirectory generator →
      let forms := generator.generate.forms
      let written := forms.flatMap (·.paths directory)
      (∀ report after, run = (.ok report, after) ↔
        before.WritesForms directory forms after ∧
          report = { name, written, failures := generator.generate.failures }) ∧
      (∀ after, before.WritesForms directory forms after → before.ChangesOnly written after) ∧
      ∀ definition operation form, generator.generateForm definition operation = .ok (some form) →
        ∀ path ∈ form.paths directory, path ∈ written := by
  intro run directory
  refine ⟨before.stops_or_prepares name target projectDirectory,
    fun failure stops => Workspace.run_runTarget_of_stops stops, fun generator prepares => ?_⟩
  intro forms written
  have run_eq : run = (writeReport name generator.generate directory : StateM Workspace _).run
      before := Workspace.run_runTarget_of_prepares prepares name
  refine ⟨fun report after => ?_, fun after => Workspace.changesOnly_of_writesForms, ?_⟩
  · rw [run_eq, Workspace.run_writeReport_ok_iff]
    simp only [Workspace.run_writeGeneration_ok_iff]
    constructor
    · rintro ⟨_, ⟨writes, rfl⟩, rfl⟩
      exact ⟨writes, rfl⟩
    · rintro ⟨writes, rfl⟩
      exact ⟨_, ⟨writes, rfl⟩, rfl⟩
  · intro definition operation form generated path own
    exact List.mem_flatMap.mpr ⟨form, Generator.mem_forms_generate generated, own⟩

/-- Notes have a form, lists have none: their rows are not defined. From here on the reader is the one
of `Yaml`. -/
def noteSchemaText : String :=
  "definitions:\n" ++
  "  List:\n" ++
  "    properties:\n" ++
  "      rows:\n" ++
  "        type: array\n" ++
  "        items:\n" ++
  "          $ref: Row\n" ++
  "  Note:\n" ++
  "    required: []\n"

def noteGenerator : Generator :=
  let rows : Property := { type := some .array, items := some { reference := some "Row" } }
  { schema :=
      { definitions := .ofEntries
          [("List", { properties := .ofEntries [("rows", rows)] }), ("Note", {})] }
    rules := {} }

def noteTarget : Target := { schema := ⟨"notes.yaml"⟩, directory := ⟨"forms"⟩ }

def noteWorkspace : Workspace :=
  { root := .directory [("notes.yaml", .file noteSchemaText)] }

def noteReport : Report :=
  { name := "notes"
    written :=
      [⟨"forms/note-update.json"⟩, ⟨"forms/note-update-locales.json"⟩,
       ⟨"forms/note-create.json"⟩, ⟨"forms/note-create-locales.json"⟩]
    failures :=
      [.unresolvedReference "List" "rows" "Row", .unresolvedReference "List" "rows" "Row"] }

theorem prepares_noteWorkspace : noteWorkspace.Prepares noteTarget ⟨""⟩ noteGenerator := by
  have parsed : Readable.ofText? noteSchemaText = some noteGenerator.schema := by decide +kernel
  exact ⟨noteSchemaText, _, by decide +kernel, parsed, by decide +kernel⟩

theorem generate_noteGenerator :
    noteGenerator.generate =
      { forms := [itemForm "Note" .update, itemForm "Note" .create]
        failures := noteReport.failures } := by
  decide +kernel

def writtenNotes : Workspace :=
  ((runTarget "notes" noteTarget ⟨""⟩ : StateM Workspace _).run noteWorkspace).2

theorem run_noteTarget :
    (runTarget "notes" noteTarget ⟨""⟩ : StateM Workspace _).run noteWorkspace =
      (.ok noteReport, writtenNotes) := by
  have outcome : ((runTarget "notes" noteTarget ⟨""⟩ : StateM Workspace _).run noteWorkspace).1 =
      .ok noteReport := by
    rw [Workspace.run_runTarget_of_prepares prepares_noteWorkspace, generate_noteGenerator]
    decide +kernel
  rw [writtenNotes, ← outcome]
  exact (Prod.eta _).symm

theorem stops_without_notes :
    ({} : Workspace).Stops "notes" noteTarget ⟨""⟩
      ⟨["Failed to read schema notes.yaml"], .io .notFound⟩ :=
  .inl ⟨.notFound, by decide +kernel, by decide +kernel⟩

/-- Without its schema the target does nothing. With it the notes are written, not the lists. -/
theorem noteTarget_all_or_nothing :
    ({} : Workspace).Stops "notes" noteTarget ⟨""⟩
        ⟨["Failed to read schema notes.yaml"], .io .notFound⟩ ∧
      (runTarget "notes" noteTarget ⟨""⟩ : StateM Workspace _).run {} =
        (.error ⟨["Failed to read schema notes.yaml"], .io .notFound⟩, {}) ∧
      noteWorkspace.Prepares noteTarget ⟨""⟩ noteGenerator ∧
      (runTarget "notes" noteTarget ⟨""⟩ : StateM Workspace _).run noteWorkspace =
        (.ok noteReport, writtenNotes) ∧
      noteWorkspace.ChangesOnly noteReport.written writtenNotes := by
  obtain ⟨_, stopped, _⟩ := runTarget_all_or_nothing {} "notes" noteTarget ⟨""⟩
  obtain ⟨_, _, prepared⟩ := runTarget_all_or_nothing noteWorkspace "notes" noteTarget ⟨""⟩
  obtain ⟨reports, changes, _⟩ := prepared noteGenerator prepares_noteWorkspace
  obtain ⟨writes, report_eq⟩ := (reports noteReport writtenNotes).mp run_noteTarget
  refine ⟨stops_without_notes, stopped _ stops_without_notes, prepares_noteWorkspace,
    run_noteTarget, ?_⟩
  rw [congrArg Report.written report_eq]
  exact changes writtenNotes writes

end SchemaForms
