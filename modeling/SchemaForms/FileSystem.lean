import SchemaForms.Text.Words
import SchemaForms.OrderedMap.Basic
/-! Paths as texts, access to files, and directory trees in memory that provide it. Joining paths
changes nothing within their parts; taking a parent cuts off the last component and what is left
without meaning at the end. -/
namespace SchemaForms

structure Path where
  text : String
deriving DecidableEq, Inhabited

namespace Path

def isAbsolute (path : Path) : Bool := path.text.toList.head? = some '/'

/-- An absolute path replaces the one it is joined to. -/
def join (directory path : Path) : Path :=
  if path.isAbsolute || directory.text = "" then path
  else if directory.text.toList.getLast? = some '/' then ⟨directory.text ++ path.text⟩
  else ⟨directory.text ++ "/" ++ path.text⟩

/-- The parts between slashes; an absolute path starts with an empty one. -/
def parts (path : Path) : List String := (segments '/' path.text.toList).map String.ofList

/-- Parts after the first that name nothing. -/
def isVoid (part : String) : Bool := part = "" || part = "."

def ofParts (first : String) (rest : List String) : Path :=
  if rest.isEmpty then ⟨if first = "" then "/" else first⟩
  else ⟨first ++ "/" ++ "/".intercalate rest⟩

/-- The parents of a path given by its first part and its other parts, last one first. A relative
path ends at the empty path and an absolute one at the root. -/
def parentsOf (first : String) : List String → List Path
  | [] => if first = "" then [] else [⟨""⟩]
  | part :: rest =>
    if isVoid part then parentsOf first rest
    else ofParts first (rest.dropWhile isVoid).reverse :: parentsOf first rest

/-- The enclosing directories, nearest first. -/
def parents (path : Path) : List Path :=
  match path.parts with
  | [] => []
  | first :: rest => parentsOf first rest.reverse

def parent? (path : Path) : Option Path := path.parents.head?

/-- The path itself and its parents. -/
def ancestors (path : Path) : List Path := path :: path.parents

end Path

inductive IoError where
  | notFound
  | isADirectory
  | notADirectory
  | alreadyExists
  | other (text : String)
deriving DecidableEq

def IoError.message : IoError → String
  | .notFound => "No such file or directory (os error 2)"
  | .isADirectory => "Is a directory (os error 21)"
  | .notADirectory => "Not a directory (os error 20)"
  | .alreadyExists => "File exists (os error 17)"
  | .other text => text

/-- What the program needs of a file system. -/
class FileAccess (m : Type → Type) where
  read : Path → m (Except IoError String)
  write : Path → String → m (Except IoError Unit)
  makeDirectory : Path → m (Except IoError Unit)
  isPresent : Path → m Bool
  isDirectory : Path → m Bool
  workingDirectory : m Path

/-- What the program needs of the format that its inputs are written in: the value that a text reads
as, if it does. Nothing else is assumed of a reader. -/
class Readable (α : Type) where
  ofText? : String → Option α

inductive FileTree where
  | file (contents : String)
  | directory (entries : List (String × FileTree))
deriving Inhabited

/-- The names that lead from the root of a tree to a node. -/
abbrev Location := List String

namespace FileTree

def entries : FileTree → Entries FileTree
  | .file _ => []
  | .directory entries => entries

def isDirectory : FileTree → Bool
  | .file _ => false
  | .directory _ => true

def find? (tree : FileTree) : Location → Option FileTree
  | [] => some tree
  | name :: rest => (Entries.get? tree.entries name).bind (find? · rest)

/-- Puts a node at a location, where every node on the way is a directory. -/
def put (tree : FileTree) (node : FileTree) : Location → FileTree
  | [] => node
  | name :: rest =>
    .directory (Entries.upsert name (fun child => (child.getD (.directory [])).put node rest)
      tree.entries)

mutual
/-- All files below a node with their locations. -/
def files (location : Location) : FileTree → List (Location × String)
  | .file contents => [(location, contents)]
  | .directory entries => filesOf location entries

def filesOf (location : Location) : List (String × FileTree) → List (Location × String)
  | [] => []
  | (name, node) :: rest => files (location ++ [name]) node ++ filesOf location rest
end

end FileTree

/-- A directory tree and the directory in it from which relative paths start. -/
structure Workspace where
  root : FileTree := .directory []
  directory : Location := []
deriving Inhabited

namespace Workspace

/-- One step along a path from a directory that is there. -/
def step (root : FileTree) (location : Location) (part : String) : Except IoError Location :=
  match root.find? location with
  | none => .error .notFound
  | some (.file _) => .error .notADirectory
  | some (.directory _) =>
    .ok (if part = ".." then location.dropLast
      else if Path.isVoid part then location
      else location ++ [part])

/-- Where a path leads. Every directory on the way is there, but what the path names may not be. -/
def locate (workspace : Workspace) (path : Path) : Except IoError Location :=
  if path.text = "" then .error .notFound
  else path.parts.foldlM (step workspace.root)
    (if path.isAbsolute then [] else workspace.directory)

def nodeAt (workspace : Workspace) (path : Path) : Except IoError FileTree :=
  (workspace.locate path).bind fun location =>
    match workspace.root.find? location with
    | none => .error .notFound
    | some node => .ok node

def read (workspace : Workspace) (path : Path) : Except IoError String :=
  (workspace.nodeAt path).bind fun
    | .file contents => .ok contents
    | .directory _ => .error .isADirectory

def isPresent (workspace : Workspace) (path : Path) : Bool := (workspace.nodeAt path).toBool

def isDirectory (workspace : Workspace) (path : Path) : Bool :=
  match workspace.nodeAt path with
  | .ok node => node.isDirectory
  | .error _ => false

def put (workspace : Workspace) (location : Location) (node : FileTree) : Workspace :=
  { workspace with root := workspace.root.put node location }

def write (workspace : Workspace) (path : Path) (contents : String) :
    Except IoError Workspace :=
  (workspace.locate path).bind fun location =>
    match workspace.root.find? location with
    | some (.directory _) => .error .isADirectory
    | _ => .ok (workspace.put location (.file contents))

/-- A slash at the end of a new directory's path has no meaning. -/
def withoutTrailingSlashes (path : Path) : Path :=
  match path.text.toList.reverse.dropWhile (· = '/') with
  | [] => path
  | chars => ⟨String.ofList chars.reverse⟩

def makeDirectory (workspace : Workspace) (path : Path) : Except IoError Workspace :=
  (workspace.locate (withoutTrailingSlashes path)).bind fun location =>
    match workspace.root.find? location with
    | some _ => .error .alreadyExists
    | none => .ok (workspace.put location (.directory []))

/-- Runs a change of the workspace, which a failure leaves as it was. -/
def attempt (change : Workspace → Except IoError Workspace) : StateM Workspace (Except IoError Unit) :=
  fun workspace => match change workspace with
    | .ok changed => (.ok (), changed)
    | .error error => (.error error, workspace)

instance : FileAccess (StateM Workspace) where
  read path := do return (← get).read path
  write path contents := attempt (·.write path contents)
  makeDirectory path := attempt (·.makeDirectory path)
  isPresent path := do return (← get).isPresent path
  isDirectory path := do return (← get).isDirectory path
  workingDirectory := do return ⟨"/" ++ "/".intercalate (← get).directory⟩

end Workspace

section
variable {m : Type → Type} [Monad m] [FileAccess m]

/-- Creates the first of some nested directories, and before it those of the others that are
missing. -/
def createNested : List Path → m (Except IoError Unit)
  | [] => return .error .notFound
  | path :: parents =>
    if path.text = "" then return .ok () else do
      let settle (error : IoError) : m (Except IoError Unit) := do
        if ← FileAccess.isDirectory path then return .ok () else return .error error
      match ← FileAccess.makeDirectory path with
      | .ok () => return .ok ()
      | .error .notFound =>
        match ← createNested parents with
        | .error error => return .error error
        | .ok () =>
          match ← FileAccess.makeDirectory path with
          | .ok () => return .ok ()
          | .error error => settle error
      | .error error => settle error

/-- Creates a directory with its parents; one that is there stays as it is. -/
def createDirectories (path : Path) : m (Except IoError Unit) := createNested path.ancestors

end

end SchemaForms
