import SchemaForms.Command.Run
/-! The command line program over the files of the machine. -/
namespace SchemaForms

def IoError.ofIO : IO.Error → IoError
  | .noFileOrDirectory .. => .notFound
  | .alreadyExists .. => .alreadyExists
  | .inappropriateType .. => .notADirectory
  | error => .other (toString error)

def attemptIO {α : Type} (action : IO α) : IO (Except IoError α) := do
  try return .ok (← action) catch error => return .error (.ofIO error)

def isDirectoryIO (path : Path) : IO Bool := do
  try return (← IO.FS.realPath (path.text ++ "/")).toString ≠ "" catch _ => return false

instance : FileAccess IO where
  read path := do
    if ← isDirectoryIO path then return .error .isADirectory
    attemptIO (IO.FS.readFile path.text)
  write path contents := do
    if ← isDirectoryIO path then return .error .isADirectory
    attemptIO (IO.FS.writeFile path.text contents)
  makeDirectory path := attemptIO (IO.FS.createDir path.text)
  isPresent path := do
    try return (← IO.FS.realPath path.text).toString ≠ "" catch _ => return false
  isDirectory path := isDirectoryIO path
  workingDirectory := do return ⟨(← IO.currentDir).toString⟩

def programName : String := "metaform-scaffold"

def usage : String :=
  "\n".intercalate
    ["Generates metaforms from Swagger definitions", "",
     "Usage: " ++ programName ++ " [-v] generate [TARGETS]... [--all] [-c PATH]",
     "       " ++ programName ++ " [-v] form -s FILE [-r FILE] -o DIR [--only DEFINITION]"]

def runMain (arguments : List String) : IO UInt32 := do
  match Request.parse? arguments with
  | none => IO.eprintln usage; return 2
  | some .help => IO.println usage; return 0
  | some .version => IO.println (programName ++ " 0.1.0"); return 0
  | some (.run command) =>
    let transcript ← command.run
    transcript.output.forM fun line => IO.println line
    transcript.diagnostics.forM fun diagnostic => IO.eprintln diagnostic.text
    return transcript.exitCode.toUInt32

end SchemaForms

def main (arguments : List String) : IO UInt32 := SchemaForms.runMain arguments
