import SchemaForms.Command.Arguments
import SchemaForms.Run
import SchemaForms.Yaml.Documents
/-! The two commands, with what they print and the outcome they exit with. -/
namespace SchemaForms

/-- A line on the error stream. -/
inductive Diagnostic where
  | noTargets
  | unknownTarget (name : String)
  | failedForm (error : FormError)
  | fatal (failure : Failure)
deriving DecidableEq

inductive Colour where
  | red
  | green
  | yellow

def Colour.code : Colour → String
  | .red => "31"
  | .green => "32"
  | .yellow => "33"

def Colour.start (colour : Colour) : String := "\x1b[" ++ colour.code ++ "m"

def Colour.paint (colour : Colour) (text : String) : String := colour.start ++ text ++ "\x1b[0m"

def Diagnostic.text : Diagnostic → String
  | .noTargets =>
    Colour.yellow.paint
      ("No targets specified. Add default targets to " ++ Project.fileName ++ " or use --all")
  | .unknownTarget name => Colour.red.paint ("Error: Unknown target '" ++ name ++ "'")
  | .failedForm error => "  " ++ Colour.red.paint error.message
  | .fatal failure => Colour.red.paint ("Error: " ++ failure.message)

/-- What a command printed, in lines, and whether all went well. -/
structure Transcript where
  output : List String := []
  diagnostics : List Diagnostic := []
  isSuccess : Bool := true
deriving DecidableEq

namespace Transcript

instance : Append Transcript where
  append first second :=
    { output := first.output ++ second.output
      diagnostics := first.diagnostics ++ second.diagnostics
      isSuccess := first.isSuccess && second.isSuccess }

def fatal (failure : Failure) : Transcript :=
  { diagnostics := [.fatal failure], isSuccess := false }

/-- One line on the outcome and one for each form that failed. -/
def ofReport (report : Report) : Transcript :=
  let forms := toString (report.written.length / 2)
  if report.isSuccess then
    { output := [Colour.green.paint "✓" ++ " " ++ report.name ++ ": " ++ forms ++ " forms"] }
  else
    { output :=
        [Colour.red.paint "✗" ++ " " ++ report.name ++ ": " ++ forms ++ " forms, " ++
          toString report.failures.length ++ " failed"]
      diagnostics := report.failures.map .failedForm
      isSuccess := false }

def exitCode (transcript : Transcript) : Nat := if transcript.isSuccess then 0 else 1

end Transcript

def Project.listing (project : Project) : List String :=
  ["", "Available targets:"] ++ project.targetNames.map (fun name => "  - " ++ name)

section
variable {m : Type → Type} [Monad m] [FileAccess m]

/-- Runs targets in order up to the first that is unknown or cannot be run. -/
def runTargets [Readable Schema] (project : Project) (directory : Path) : List String → m Transcript
  | [] => return {}
  | name :: rest =>
    match project.target? name with
    | none =>
      pure
        { output := project.listing
          diagnostics := [.unknownTarget name]
          isSuccess := false }
    | some target => do
      match ← runTarget name target directory with
      | .error failure => return .fatal failure
      | .ok report => return .ofReport report ++ (← runTargets project directory rest)

/-- All targets, the named ones, or the default ones. -/
def GenerateArguments.targetNames (arguments : GenerateArguments) (project : Project) :
    List String :=
  if arguments.all then project.targetNames
  else if arguments.targets.isEmpty then project.defaultTargets
  else arguments.targets

def generateTargets [Readable Schema] (project : Project) (directory : Path)
    (names : List String) : m Transcript :=
  if names.isEmpty then return { output := project.listing, diagnostics := [.noTargets] }
  else runTargets project directory names

def ProjectError.failure (path : Path) : ProjectError → Failure
  | .io error => ⟨["Error loading " ++ path.text, "IO error"], .io error⟩
  | .malformed => ⟨["Error loading " ++ path.text, "Config error"], .malformed⟩

/-- The given project file, or the nearest one. -/
def GenerateArguments.findProject (arguments : GenerateArguments) : m (Option Path) :=
  match arguments.project with
  | some path => return some path
  | none => do Project.find (← FileAccess.workingDirectory)

def runGenerate [Readable Schema] [Readable Project] (arguments : GenerateArguments) :
    m Transcript := do
  match ← arguments.findProject with
  | none => return .fatal ⟨[], .noProject⟩
  | some path =>
    match ← Project.load path with
    | .error error => return .fatal (error.failure path)
    | .ok project =>
      generateTargets project (path.parent?.getD ⟨"."⟩) (arguments.targetNames project)

/-- Generates the forms of one schema without a project. -/
def formReport [Readable Schema] [Readable RuleBook] (arguments : FormArguments) :
    m (Except Failure Report) := do
  match ← readSchema arguments.schema with
  | .error failure => return .error failure
  | .ok schema =>
    let rules ← match arguments.rules with
      | none => pure (.ok {})
      | some path => readRules path
    match rules with
    | .error failure => return .error failure
    | .ok rules =>
      let generation := do
        let generator ← Generator.prepare schema rules
        match arguments.only with
        | none => return generator.generate
        | some definition => generator.generateOnly definition
      match generation with
      | .error error => return .error ⟨[], .form error⟩
      | .ok generation => writeReport arguments.schema.text generation arguments.directory

def runForm [Readable Schema] [Readable RuleBook] (arguments : FormArguments) : m Transcript := do
  match ← formReport arguments with
  | .error failure => return .fatal failure
  | .ok report => return .ofReport report

/-- All files that a command reads are written in the notation that `Yaml` reads. -/
def Command.run : Command → m Transcript
  | .generate arguments => runGenerate arguments
  | .form arguments => runForm arguments

end
end SchemaForms
