import SchemaForms.Project
import SchemaForms.Form.Generator
/-! Reading inputs, generating forms and writing them, with a report of what was written and what
could not be generated. -/
namespace SchemaForms

/-- What lies behind a failed run. -/
inductive Cause where
  | io (error : IoError)
  | malformed
  | form (error : FormError)
  | noProject
deriving DecidableEq

def Cause.message : Cause → String
  | .io error => error.message
  | .malformed => "malformed document"
  | .form error => error.message
  | .noProject => "No " ++ Project.fileName ++ " found"

/-- A cause with what was being done, outermost first. -/
structure Failure where
  contexts : List String
  cause : Cause
deriving DecidableEq

def Failure.message (failure : Failure) : String :=
  ": ".intercalate (failure.contexts ++ [failure.cause.message])

/-- The outcome of one generation whose forms have been written. -/
structure Report where
  name : String
  written : List Path
  failures : List FormError
deriving DecidableEq

def Report.isSuccess (report : Report) : Bool := report.failures.isEmpty

section
variable {m : Type → Type} [Monad m] [FileAccess m]

/-- Reads and parses a file; `kind` names its contents in failures. -/
def readSource {α : Type} [Readable α] (kind : String) (path : Path) : m (Except Failure α) := do
  match ← FileAccess.read path with
  | .error error => return .error ⟨["Failed to read " ++ kind ++ " " ++ path.text], .io error⟩
  | .ok source =>
    match Readable.ofText? source with
    | none => return .error ⟨["Failed to parse " ++ kind ++ " " ++ path.text], .malformed⟩
    | some value => return .ok value

def readSchema [Readable Schema] (path : Path) : m (Except Failure Schema) :=
  readSource "schema" path

def readRules [Readable RuleBook] (path : Path) : m (Except Failure RuleBook) :=
  readSource "rules" path

/-- Writes files into a directory up to the first that cannot be written. -/
def writeFiles (directory : Path) : List (String × String) → m (Except Failure (List Path))
  | [] => return .ok []
  | (fileName, contents) :: rest => do
    let path := directory.join ⟨fileName⟩
    match ← FileAccess.write path contents with
    | .error error => return .error ⟨["Failed to write " ++ path.text], .io error⟩
    | .ok () =>
      match ← writeFiles directory rest with
      | .error failure => return .error failure
      | .ok written => return .ok (path :: written)

/-- Writes the artifacts of every form into a directory, which is created when missing. -/
def writeGeneration (generation : Generation) (directory : Path) :
    m (Except Failure (List Path)) := do
  match ← createDirectories directory with
  | .error error =>
    return .error ⟨["Failed to create directory " ++ directory.text], .io error⟩
  | .ok () => writeFiles directory (generation.forms.flatMap GeneratedForm.artifacts)

def writeReport (name : String) (generation : Generation) (directory : Path) :
    m (Except Failure Report) := do
  match ← writeGeneration generation directory with
  | .error failure => return .error failure
  | .ok written => return .ok { name, written, failures := generation.failures }

/-- Nothing is written unless the schema can be read and prepared. -/
def runTarget [Readable Schema] (name : String) (target : Target) (projectDirectory : Path) :
    m (Except Failure Report) := do
  match ← readSchema (target.schemaPath projectDirectory) with
  | .error failure => return .error failure
  | .ok schema =>
    match Generator.prepare schema target.rules with
    | .error error => return .error ⟨["Failed to prepare target " ++ name], .form error⟩
    | .ok generator =>
      writeReport name generator.generate (target.directoryPath projectDirectory)

end
end SchemaForms
