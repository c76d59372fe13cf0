import SchemaForms.FileSystem
/-! The command line: a command with its options and operands. -/
namespace SchemaForms

/-- An option, by its long name and perhaps a letter. -/
structure OptionSpec where
  name : String
  letter : Option Char := none
  takesValue : Bool := false

inductive Occurrence where
  | flag (name : String)
  | value (name text : String)
  | operand (text : String)
  | invalid
deriving DecidableEq

namespace Occurrence

/-- A dash alone is a value; other texts with a leading dash are options. -/
def isValue (argument : String) : Bool :=
  argument = "-" || argument.toList.head? ≠ some '-'

/-- Options written as letters in one argument. A valued one takes the rest of the argument; the
second result is its name when nothing is left. -/
def ofLetters (specs : List OptionSpec) : List Char → List Occurrence × Option String
  | [] => ([], none)
  | letter :: rest =>
    match specs.find? (fun spec => spec.letter = some letter) with
    | none => ([.invalid], none)
    | some spec =>
      if spec.takesValue then
        match rest with
        | [] => ([], some spec.name)
        | '=' :: text => ([.value spec.name (String.ofList text)], none)
        | text => ([.value spec.name (String.ofList text)], none)
      else
        let (later, pending) := ofLetters specs rest
        (.flag spec.name :: later, pending)

/-- An option written with its name, with its value after an equals sign if it has one there. -/
def ofName (specs : List OptionSpec) (text : List Char) : List Occurrence × Option String :=
  let name := String.ofList (text.takeWhile (· ≠ '='))
  match specs.find? (fun spec => spec.name = name), text.dropWhile (· ≠ '=') with
  | none, _ => ([.invalid], none)
  | some spec, [] => if spec.takesValue then ([], some name) else ([.flag name], none)
  | some spec, _ :: given =>
    if spec.takesValue then ([.value name (String.ofList given)], none) else ([.invalid], none)

/-- What one argument says, and the option that waits for its value. -/
def ofArgument (specs : List OptionSpec) (argument : String) : List Occurrence × Option String :=
  if isValue argument then ([.operand argument], none)
  else match argument.toList with
    | '-' :: '-' :: text => ofName specs text
    | _ :: letters => ofLetters specs letters
    | [] => ([], none)

/-- What the arguments say in order; nothing after an invalid one counts. Only operands follow two
dashes. -/
def ofArguments (specs : List OptionSpec) : List String → List Occurrence
  | [] => []
  | argument :: rest =>
    if argument = "--" then rest.map .operand
    else match ofArgument specs argument with
      | (found, none) => found ++ ofArguments specs rest
      | (found, some name) =>
        match rest with
        | text :: rest =>
          if isValue text then found ++ .value name text :: ofArguments specs rest
          else found ++ [.invalid]
        | [] => found ++ [.invalid]

end Occurrence

structure GenerateArguments where
  targets : List String := []
  all : Bool := false
  project : Option Path := none
deriving DecidableEq

structure FormArguments where
  schema : Path
  rules : Option Path := none
  directory : Path
  only : Option String := none
deriving DecidableEq

inductive Command where
  | generate (arguments : GenerateArguments)
  | form (arguments : FormArguments)
deriving DecidableEq

inductive Request where
  | run (command : Command)
  | help
  | version
deriving DecidableEq

/-- Options and operands of a command; a valued option holds its text. -/
structure Options where
  flags : List String := []
  values : Entries String := []
  operands : List String := []

namespace Options

/-- Options are given once, except for `verbose`. Paths are not empty. -/
def add? (options : Options) : Occurrence → Option Options
  | .flag name =>
    if name ≠ "verbose" ∧ options.flags.contains name then none
    else some { options with flags := options.flags ++ [name] }
  | .value name text =>
    if (Entries.keys options.values).contains name ∨ (name ≠ "only" ∧ text = "") then none
    else some { options with values := options.values ++ [(name, text)] }
  | .operand text => some { options with operands := options.operands ++ [text] }
  | .invalid => none

/-- Reads occurrences up to a request for help, which makes the rest irrelevant. -/
def read? (options : Options) : List Occurrence → Option (Option Options)
  | [] => some (some options)
  | occurrence :: rest =>
    if occurrence = .flag "help" then some none
    else (options.add? occurrence).bind (read? · rest)

def path? (options : Options) (name : String) : Option Path :=
  (Entries.get? options.values name).map Path.mk

end Options

namespace Command

def commonSpecs : List OptionSpec := [⟨"verbose", some 'v', false⟩, ⟨"help", some 'h', false⟩]

def generateSpecs : List OptionSpec :=
  [⟨"all", none, false⟩, ⟨"config", some 'c', true⟩] ++ commonSpecs

def formSpecs : List OptionSpec :=
  [⟨"schema", some 's', true⟩, ⟨"rules", some 'r', true⟩, ⟨"out", some 'o', true⟩,
   ⟨"only", none, true⟩] ++ commonSpecs

def ofGenerateOptions? (options : Options) : Option Command :=
  some (.generate
    { targets := options.operands
      all := options.flags.contains "all"
      project := options.path? "config" })

/-- The schema and the output directory have to be given. -/
def ofFormOptions? (options : Options) : Option Command := do
  if !options.operands.isEmpty then none
  return .form
    { schema := ← options.path? "schema"
      rules := options.path? "rules"
      directory := ← options.path? "out"
      only := Entries.get? options.values "only" }

end Command

namespace Request

def ofCommand? (specs : List OptionSpec) (command? : Options → Option Command)
    (arguments : List String) : Option Request := do
  match ← Options.read? {} (Occurrence.ofArguments specs arguments) with
  | none => return .help
  | some options => return .run (← command? options)

def topSpecs : List OptionSpec := Command.commonSpecs ++ [⟨"version", some 'V', false⟩]

/-- Commands that help can be asked about. -/
def helpTopics : List String := ["generate", "form", "help"]

/-- The outcome of options in front of the command, unless it is read on. -/
def ofTopOptions : List Occurrence → Option (Option Request)
  | [] => none
  | .flag "help" :: _ => some (some .help)
  | .flag "version" :: _ => some (some .version)
  | .flag _ :: rest => ofTopOptions rest
  | _ => some none

/-- Options that concern no command may come before it. None means that the arguments are wrong. -/
def parse? : List String → Option Request
  | [] => none
  | "generate" :: rest => ofCommand? Command.generateSpecs Command.ofGenerateOptions? rest
  | "form" :: rest => ofCommand? Command.formSpecs Command.ofFormOptions? rest
  | "help" :: rest =>
    match rest with
    | [] => some .help
    | [topic] => if helpTopics.contains topic then some .help else none
    | _ => none
  | "--" :: _ => none
  | argument :: rest =>
    match ofTopOptions (Occurrence.ofArgument topSpecs argument).1 with
    | some outcome => outcome
    | none => parse? rest

end Request
end SchemaForms
