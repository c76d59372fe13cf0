import SchemaForms.Form.Generator
/-! Fixtures: a schema with rules and what generation has to make of them. -/
namespace SchemaForms

/-- Whether `part` occurs in `text`. -/
def containsText (part : List Char) : List Char → Bool
  | [] => part.isEmpty
  | c :: rest => part.isPrefixOf (c :: rest) || containsText part rest

structure Fixture where
  description : Option String := none
  schema : Schema
  rules : RuleBook := {}
  /-- Documents by file name. -/
  expected : OrderedMap Json := {}
  /-- A part of the error with which generation has to fail. -/
  error : Option String := none
  /-- Files that must not be generated. -/
  absent : List String := []
deriving DecidableEq

/-- Why a fixture does not pass. -/
inductive FixtureFault where
  | missingError (expected : String)
  | wrongError (expected : String) (actual : FormError)
  | unexpectedError (actual : FormError)
  | notGenerated (fileName : String)
  | mismatch (fileName : String)
  | notAbsent (fileName : String)
deriving DecidableEq

def FixtureFault.message : FixtureFault → String
  | .missingError expected =>
    "Expected error containing Some(" ++ Text.quoted expected ++ "), but generation succeeded"
  | .wrongError expected actual =>
    "Expected error containing " ++ Text.quoted expected ++ ", got: " ++ actual.message
  | .unexpectedError actual => "Unexpected error: " ++ actual.message
  | .notGenerated fileName => "Artifact " ++ fileName ++ " was not generated"
  | .mismatch fileName => fileName ++ " mismatch:"
  | .notAbsent fileName => "Artifact " ++ fileName ++ " should not be generated"

namespace Fixture

/-- An error passes if it was expected and its message has the expected part. -/
def checkError (fixture : Fixture) (actual : FormError) : Except FixtureFault Unit :=
  match fixture.error with
  | none => .error (.unexpectedError actual)
  | some expected =>
    if containsText expected.toList actual.message.toList then .ok ()
    else .error (.wrongError expected actual)

def checkFailures (fixture : Fixture) (generation : Generation) : Except FixtureFault Unit :=
  match generation.failures, fixture.error with
  | failure :: _, _ => fixture.checkError failure
  | [], some expected => .error (.missingError expected)
  | [], none => .ok ()

/-- A generated file has to have the text of the expected document. -/
def checkExpected (generation : Generation) (entry : String × Json) : Except FixtureFault Unit :=
  match generation.artifact? entry.1 with
  | none => .error (.notGenerated entry.1)
  | some text => if text = entry.2.pretty then .ok () else .error (.mismatch entry.1)

def checkAbsent (generation : Generation) (fileName : String) : Except FixtureFault Unit :=
  if (generation.artifact? fileName).isSome then .error (.notAbsent fileName) else .ok ()

def checkGeneration (fixture : Fixture) (generation : Generation) :
    Except FixtureFault Unit := do
  fixture.checkFailures generation
  fixture.expected.entries.forM (checkExpected generation)
  fixture.absent.forM (checkAbsent generation)

/-- When the prepare pass fails, only its error is looked at. -/
def check (fixture : Fixture) : Except FixtureFault Unit :=
  match Generator.prepare fixture.schema fixture.rules with
  | .error error => fixture.checkError error
  | .ok generator => fixture.checkGeneration generator.generate

end Fixture
end SchemaForms
