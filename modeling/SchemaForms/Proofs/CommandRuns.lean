import SchemaForms.Command.Run
import SchemaForms.Proofs.TargetRuns
/-! What comes of a list of targets. They are run in order until one of them is unknown or cannot be
run, and the outcome is a success when all of them are run and no form of any of them fails. -/
namespace SchemaForms

namespace Transcript

/-- What a command returns: the failure that stopped it, or else whether all went well. -/
def outcome (transcript : Transcript) : Except Failure Bool :=
  match transcript.diagnostics.getLast? with
  | some (.fatal failure) => .error failure
  | _ => .ok transcript.isSuccess

theorem append_def (first second : Transcript) :
    first ++ second =
      { output := first.output ++ second.output
        diagnostics := first.diagnostics ++ second.diagnostics
        isSuccess := first.isSuccess && second.isSuccess } := rfl

theorem isSuccess_ofReport (report : Report) : (ofReport report).isSuccess = report.isSuccess := by
  unfold ofReport
  cases report.isSuccess <;> rfl

theorem diagnostics_ofReport (report : Report) :
    (ofReport report).diagnostics = report.failures.map .failedForm := by
  unfold ofReport
  cases succeeds : report.isSuccess with
  | true =>
    rw [Report.isSuccess, List.isEmpty_iff] at succeeds
    rw [succeeds]
    rfl
  | false => rfl

/-- A report in front keeps a failure and turns a success into one of its own. -/
theorem outcome_ofReport_append (report : Report) (later : Transcript) :
    (ofReport report ++ later).outcome = later.outcome.map (report.isSuccess && ·) := by
  rw [append_def, outcome, outcome, isSuccess_ofReport, diagnostics_ofReport]
  dsimp only
  rcases List.eq_nil_or_concat' later.diagnostics with nothing | ⟨others, last, last_eq⟩
  · rw [nothing, List.append_nil, List.getLast?_map, List.getLast?_nil]
    cases report.failures.getLast? <;> rfl
  · rw [last_eq, ← List.append_assoc, List.getLast?_concat, List.getLast?_concat]
    cases last <;> rfl

theorem exitCode_eq_zero_iff {transcript : Transcript} :
    transcript.exitCode = 0 ↔ transcript.isSuccess = true := by
  unfold exitCode
  cases transcript.isSuccess <;> decide

end Transcript

namespace Project
variable [Readable Schema] {project : Project} {directory : Path}

/-- The targets of these names are run one after another and all of them report. -/
inductive RunsThrough (project : Project) (directory : Path) :
    Workspace → List String → List Report → Workspace → Prop where
  | nil (workspace : Workspace) : RunsThrough project directory workspace [] [] workspace
  | cons {before between after : Workspace} {name : String} {target : Target} {report : Report}
      {names : List String} {reports : List Report}
      (known : project.target? name = some target)
      (run : (runTarget name target directory : StateM Workspace _).run before =
        (.ok report, between))
      (later : RunsThrough project directory between names reports after) :
      RunsThrough project directory before (name :: names) (report :: reports) after

/-- How a run ends after some reports when these names are left: with all of them run, with a name
that is unknown, or with a target that cannot be run. -/
inductive Ends (project : Project) (directory : Path) (workspace : Workspace)
    (reports : List Report) : List String → Except Failure Bool → Workspace → Prop where
  | complete :
      Ends project directory workspace reports [] (.ok (reports.all Report.isSuccess)) workspace
  | unknown {name : String} {later : List String} (unknown : project.target? name = none) :
      Ends project directory workspace reports (name :: later) (.ok false) workspace
  | failed {name : String} {later : List String} {target : Target} {failure : Failure}
      {after : Workspace} (known : project.target? name = some target)
      (run : (runTarget name target directory : StateM Workspace _).run workspace =
        (.error failure, after)) :
      Ends project directory workspace reports (name :: later) (.error failure) after

theorem Ends.cons {workspace after : Workspace} {reports : List Report} {rest : List String}
    {outcome : Except Failure Bool} (ends : project.Ends directory workspace reports rest outcome after)
    (report : Report) :
    project.Ends directory workspace (report :: reports) rest
      (outcome.map (report.isSuccess && ·)) after := by
  cases ends with
  | complete => exact .complete
  | unknown unknown =>
    rw [Except.map, Bool.and_false]
    exact .unknown unknown
  | failed known run => exact .failed known run

/-- Only a run that is complete succeeds. -/
theorem Ends.of_success {workspace after : Workspace} {reports : List Report} {rest : List String}
    {outcome : Except Failure Bool} (ends : project.Ends directory workspace reports rest outcome after)
    (succeeds : outcome = .ok true) :
    rest = [] ∧ after = workspace ∧ ∀ report ∈ reports, report.failures = [] := by
  cases ends with
  | complete =>
    have all_succeed := List.all_eq_true.mp (Except.ok.inj succeeds)
    exact ⟨rfl, rfl, fun report member => List.isEmpty_iff.mp (all_succeed report member)⟩
  | unknown unknown => cases succeeds
  | failed known run => cases succeeds

section
variable {before between after : Workspace} {name : String} {target : Target} {rest : List String}

theorem run_runTargets_of_unknown (unknown : project.target? name = none) :
    (runTargets project directory (name :: rest) : StateM Workspace _).run before =
      ({ output := project.listing
         diagnostics := [.unknownTarget name]
         isSuccess := false }, before) := by
  rw [runTargets]
  simp only [unknown]
  rfl

theorem run_runTargets_of_failure {failure : Failure} (known : project.target? name = some target)
    (run : (runTarget name target directory : StateM Workspace _).run before =
      (.error failure, after)) :
    (runTargets project directory (name :: rest) : StateM Workspace _).run before =
      (.fatal failure, after) := by
  rw [runTargets]
  simp only [known]
  rw [Workspace.run_bind_of_run run]
  rfl

theorem run_runTargets_of_report {report : Report} (known : project.target? name = some target)
    (run : (runTarget name target directory : StateM Workspace _).run before =
      (.ok report, between)) :
    (runTargets project directory (name :: rest) : StateM Workspace _).run before =
      let later := (runTargets project directory rest : StateM Workspace _).run between
      (.ofReport report ++ later.1, later.2) := by
  rw [runTargets]
  simp only [known]
  rw [Workspace.run_bind_of_run run]
  rfl

/-- Some of the names are run through, and what is left ends the run. -/
theorem exists_ends_runTargets (project : Project) (directory : Path) (names : List String)
    (before : Workspace) :
    let run := (runTargets project directory names : StateM Workspace _).run before
    ∃ done rest reports between, names = done ++ rest ∧
      project.RunsThrough directory before done reports between ∧
      project.Ends directory between reports rest run.1.outcome run.2 := by
  -- A target that reports leaves its workspace to the names after it.
  induction names generalizing before with
  | nil => exact ⟨[], [], [], before, rfl, .nil before, .complete⟩
  | cons name rest ih =>
    cases known : project.target? name with
    | none =>
      rw [run_runTargets_of_unknown known]
      exact ⟨[], name :: rest, [], before, rfl, .nil before, .unknown known⟩
    | some target =>
      rcases run : (runTarget name target directory : StateM Workspace _).run before with
        ⟨outcome, between⟩
      cases outcome with
      | error failure =>
        rw [run_runTargets_of_failure known run]
        exact ⟨[], name :: rest, [], before, rfl, .nil before, .failed known run⟩
      | ok report =>
        obtain ⟨done, left, reports, place, names_eq, through, ends⟩ := ih between
        rw [run_runTargets_of_report known run]
        dsimp only
        rw [Transcript.outcome_ofReport_append]
        exact ⟨name :: done, left, report :: reports, place, congrArg (name :: ·) names_eq,
          .cons known run through, ends.cons report⟩

/-- Names that can be run through are run through. -/
theorem RunsThrough.run_runTargets {names : List String} {reports : List Report}
    (through : project.RunsThrough directory before names reports after) :
    let run := (runTargets project directory names : StateM Workspace _).run before
    run.1.outcome = .ok (reports.all Report.isSuccess) ∧ run.2 = after := by
  induction through with
  | nil workspace => exact ⟨rfl, rfl⟩
  | cons known run later ih =>
    rw [run_runTargets_of_report known run]
    dsimp only at ih ⊢
    rw [Transcript.outcome_ofReport_append, ih.1]
    exact ⟨rfl, ih.2⟩

/-- A run succeeds just when a success is its outcome. -/
theorem isSuccess_runTargets_iff (project : Project) (directory : Path) (names : List String)
    (before : Workspace) :
    let run := (runTargets project directory names : StateM Workspace _).run before
    run.1.isSuccess = true ↔ run.1.outcome = .ok true := by
  induction names generalizing before with
  | nil => exact iff_of_true rfl rfl
  | cons name rest ih =>
    cases known : project.target? name with
    | none =>
      rw [run_runTargets_of_unknown known]
      exact iff_of_false nofun nofun
    | some target =>
      rcases run : (runTarget name target directory : StateM Workspace _).run before with
        ⟨outcome, between⟩
      cases outcome with
      | error failure =>
        rw [run_runTargets_of_failure known run]
        exact iff_of_false nofun nofun
      | ok report =>
        have later := ih between
        rw [run_runTargets_of_report known run]
        dsimp only at later ⊢
        rw [Transcript.outcome_ofReport_append, Transcript.append_def, Bool.and_eq_true,
          Transcript.isSuccess_ofReport, later]
        cases ((runTargets project directory rest : StateM Workspace _).run between).1.outcome with
        | error failure => exact iff_of_false (fun both => nomatch both.2) nofun
        | ok succeeds => simp [Except.map]

end
end Project

/-- The command has found this file and loaded this project from it. -/
structure GenerateArguments.Loads [Readable Project] (arguments : GenerateArguments)
    (workspace : Workspace) (path : Path) (project : Project) : Prop where
  found : (arguments.findProject : StateM Workspace _).run workspace = (some path, workspace)
  loaded : (Project.load path : StateM Workspace _).run workspace = (.ok project, workspace)

theorem run_runGenerate [Readable Schema] [Readable Project] {arguments : GenerateArguments}
    {before : Workspace} {path : Path} {project : Project}
    (loads : arguments.Loads before path project) :
    (runGenerate arguments : StateM Workspace _).run before =
      (generateTargets project (path.parent?.getD ⟨"."⟩) (arguments.targetNames project) :
        StateM Workspace _).run before := by
  rw [runGenerate, Workspace.run_bind_of_run loads.found]
  dsimp only
  rw [Workspace.run_bind_of_run loads.loaded]

/-- All targets are run if all are asked for, else those that are named, else the default ones: in
order, until a name is unknown or a target cannot be run. The command succeeds just when there is
none to run, or all are run and no form of any of them fails. All this holds whichever texts are read
as projects and schemas, and as which. -/
theorem runGenerate_outcome [Readable Schema] [Readable Project] {arguments : GenerateArguments}
    {before : Workspace} {path : Path} {project : Project}
    (loads : arguments.Loads before path project) :
    let directory := path.parent?.getD ⟨"."⟩
    let names := if arguments.all then project.targets.keys
      else if arguments.targets = [] then project.defaultTargets else arguments.targets
    let run := (runGenerate arguments : StateM Workspace _).run before
    (∃ done rest reports between, names = done ++ rest ∧
      project.RunsThrough directory before done reports between ∧
      project.Ends directory between reports rest run.1.outcome run.2) ∧
    (run.1.outcome = .ok true ↔ names = [] ∨ ∃ reports after,
      project.RunsThrough directory before names reports after ∧
        ∀ report ∈ reports, report.failures = []) ∧
    (run.1.exitCode = 0 ↔ run.1.outcome = .ok true) := by
  intro directory names run
  have names_eq : arguments.targetNames project = names := by
    simp only [GenerateArguments.targetNames, List.isEmpty_iff]
    rfl
  have run_eq : run = (generateTargets project directory names : StateM Workspace _).run before := by
    rw [← names_eq]
    exact run_runGenerate loads
  -- Without a name the targets are only listed, which is a success.
  by_cases nothing : names = []
  · have run_nothing : run =
        ({ output := project.listing, diagnostics := [.noTargets] }, before) := by
      rw [run_eq, nothing]
      rfl
    rw [run_nothing, nothing]
    exact ⟨⟨[], [], [], before, rfl, .nil before, .complete⟩, iff_of_true rfl (.inl rfl),
      iff_of_true rfl rfl⟩
  · have run_targets : run =
        (runTargets project directory names : StateM Workspace _).run before := by
      rw [run_eq, generateTargets, if_neg (by simpa using nothing)]
    have ended := project.exists_ends_runTargets directory names before
    rw [run_targets]
    refine ⟨ended, ?_, Transcript.exitCode_eq_zero_iff.trans
      (project.isSuccess_runTargets_iff directory names before)⟩
    constructor
    · intro succeeds
      obtain ⟨done, rest, reports, between, names_split, through, ends⟩ := ended
      obtain ⟨rfl, _, none_failed⟩ := ends.of_success succeeds
      rw [List.append_nil] at names_split
      exact .inr ⟨reports, between, names_split ▸ through, none_failed⟩
    · rintro (none_left | ⟨reports, after, through, none_failed⟩)
      · exact absurd none_left nothing
      · rw [through.run_runTargets.1, Except.ok.injEq, List.all_eq_true]
        exact fun report member => List.isEmpty_iff.mpr (none_failed report member)

/-- Two targets, one of which has lost its schema. From here on the readers are those of `Yaml`. -/
def blankProjectText : String :=
  "targets:\n" ++
  "  blank:\n" ++
  "    schema: blank.yaml\n" ++
  "    target-directory: forms\n" ++
  "  gone:\n" ++
  "    schema: gone.yaml\n" ++
  "    target-directory: forms\n"

def blankProject : Project :=
  { targets := .ofEntries
      [("blank", { schema := ⟨"blank.yaml"⟩, directory := ⟨"forms"⟩ }),
       ("gone", { schema := ⟨"gone.yaml"⟩, directory := ⟨"forms"⟩ })] }

def blankWorkspace : Workspace :=
  { root := .directory
      [(Project.fileName, .file blankProjectText), ("blank.yaml", .file "definitions: {}\n")] }

def blankArguments : GenerateArguments :=
  { targets := ["blank", "gone", "blank"], project := some ⟨Project.fileName⟩ }

def goneFailure : Failure := ⟨["Failed to read schema gone.yaml"], .io .notFound⟩

theorem blankArguments_loads :
    blankArguments.Loads blankWorkspace ⟨Project.fileName⟩ blankProject := by
  refine ⟨rfl, Prod.ext ?_ rfl⟩
  decide +kernel

theorem outcome_blankArguments :
    ((runGenerate blankArguments : StateM Workspace _).run blankWorkspace).1.outcome =
      .error goneFailure := by
  have printed : ((runGenerate blankArguments : StateM Workspace _).run blankWorkspace).1 =
      .ofReport ⟨"blank", [], []⟩ ++ .fatal goneFailure := by
    decide +kernel
  rw [printed]
  rfl

/-- The failure of the second target ends the run before the third. -/
theorem blankArguments_outcome :
    let run := (runGenerate blankArguments : StateM Workspace _).run blankWorkspace
    blankArguments.Loads blankWorkspace ⟨Project.fileName⟩ blankProject ∧
      run.1.outcome = .error goneFailure ∧ run.1.exitCode ≠ 0 ∧
      ∃ done rest reports between, blankArguments.targets = done ++ rest ∧
        blankProject.RunsThrough ⟨""⟩ blankWorkspace done reports between ∧
        blankProject.Ends ⟨""⟩ between reports rest (.error goneFailure) run.2 := by
  obtain ⟨ended, _, exits⟩ := runGenerate_outcome blankArguments_loads
  rw [outcome_blankArguments] at ended exits
  exact ⟨blankArguments_loads, outcome_blankArguments, mt exits.mp nofun, ended⟩

end SchemaForms
