import SchemaForms.Rules.Layers
import SchemaForms.FileSystem
/-! Project files: which schemas to generate forms from, under which rules, and where to put them.
-/
namespace SchemaForms

/-- A schema, its rules and the directory for its forms. Paths start at the project file. -/
structure Target where
  schema : Path
  directory : Path
  rules : RuleBook := {}
deriving DecidableEq, Inhabited

namespace Target

def schemaPath (target : Target) (projectDirectory : Path) : Path :=
  projectDirectory.join target.schema

def directoryPath (target : Target) (projectDirectory : Path) : Path :=
  projectDirectory.join target.directory

end Target

inductive ProjectError where
  | io (error : IoError)
  | malformed
deriving DecidableEq

structure Project where
  targets : OrderedMap Target := {}
  /-- The targets that are run when none is named. -/
  defaultTargets : List String := []
deriving DecidableEq, Inhabited

namespace Project

def fileName : String := "Metaform.yaml"

def parse [Readable Project] (source : String) : Except ProjectError Project :=
  match Readable.ofText? source with
  | some project => .ok project
  | none => .error .malformed

def target? (project : Project) (name : String) : Option Target := project.targets.get? name

def targetNames (project : Project) : List String := project.targets.keys

section
variable {m : Type → Type} [Monad m] [FileAccess m]

def load [Readable Project] (path : Path) : m (Except ProjectError Project) := do
  match ← FileAccess.read path with
  | .ok source => return parse source
  | .error error => return .error (.io error)

/-- The first of some directories that has an entry of the project file's name. -/
def findIn : List Path → m (Option Path)
  | [] => return none
  | directory :: rest => do
    let path := directory.join ⟨fileName⟩
    if ← FileAccess.isPresent path then return some path else findIn rest

/-- Searches a directory and its parents. -/
def find (start : Path) : m (Option Path) := findIn start.ancestors

end
end Project
end SchemaForms
