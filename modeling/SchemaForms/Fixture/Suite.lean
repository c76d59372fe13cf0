import SchemaForms.Fixture.Basic
import SchemaForms.FileSystem
/-! Running all fixtures below a directory. -/
namespace SchemaForms

/-- A fixture file; its name is its path below the directory without the ending. -/
structure CaseFile where
  location : Location
  source : String
deriving DecidableEq

namespace CaseFile

def ending : List Char := ".yaml".toList

/-- A name that is nothing but the ending does not count. -/
def hasEnding (name : String) : Bool :=
  ending.isSuffixOf name.toList && ending.length < name.length

/-- The letters of the ending go first and its dot after them. What `..yaml` has become by then names
the parent directory, which keeps its dots. -/
def withoutEnding (name : String) : String :=
  let stem := String.ofList (name.toList.take (name.length - ending.length))
  if stem = "." then ".." else stem

def isCase (location : Location) : Bool := location.getLast?.any hasEnding

def name (file : CaseFile) : String :=
  "/".intercalate (file.location.dropLast ++ (file.location.getLast?.map withoutEnding).toList)

/-- Locations are compared name by name. -/
def locationLe : Location → Location → Bool
  | [], _ => true
  | _ :: _, [] => false
  | a :: as, b :: bs => if a = b then locationLe as bs else a < b

/-- The fixture files of a tree in the order of their locations. -/
def ofTree (tree : FileTree) : List CaseFile :=
  (((tree.files []).filter (fun file => isCase file.1)).mergeSort
    (fun left right => locationLe left.1 right.1)).map fun file => ⟨file.1, file.2⟩

end CaseFile

inductive CaseFault where
  | unreadable
  | failed (fault : FixtureFault)
deriving DecidableEq

def CaseFault.message : CaseFault → String
  | .unreadable => "Failed to parse test case:"
  | .failed fault => fault.message

/-- The fixtures checked, counted apart from the list of those that failed. -/
structure SuiteResult where
  total : Nat := 0
  passed : Nat := 0
  failed : Nat := 0
  failures : List (String × CaseFault) := []
deriving DecidableEq

namespace SuiteResult

def isSuccess (result : SuiteResult) : Bool := result.failed = 0

def add (result : SuiteResult) (name : String) : Except CaseFault Unit → SuiteResult
  | .ok () => { result with total := result.total + 1, passed := result.passed + 1 }
  | .error fault =>
    { result with
      total := result.total + 1
      failed := result.failed + 1
      failures := result.failures ++ [(name, fault)] }

end SuiteResult

namespace CaseFile

def check [Readable Fixture] (file : CaseFile) : Except CaseFault Unit :=
  match (Readable.ofText? file.source : Option Fixture) with
  | none => .error .unreadable
  | some fixture => fixture.check.mapError .failed

def isSelected (filter : Option String) (file : CaseFile) : Bool :=
  filter.all fun part => containsText part.toList file.name.toList

end CaseFile

/-- Checks the fixtures of a tree whose names contain the filter. -/
def FileTree.runSuite [Readable Fixture] (tree : FileTree) (filter : Option String) : SuiteResult :=
  ((CaseFile.ofTree tree).filter (CaseFile.isSelected filter)).foldl
    (fun result file => result.add file.name file.check) {}

/-- A directory that is missing has no fixtures. -/
def Workspace.runSuite [Readable Fixture] (workspace : Workspace) (cases : Path)
    (filter : Option String) : Except IoError SuiteResult :=
  match workspace.nodeAt cases with
  | .error _ => .ok {}
  | .ok (.file _) => .error .notADirectory
  | .ok tree => .ok (tree.runSuite filter)

end SchemaForms
