import SchemaForms.Fixture.Basic
import SchemaForms.Proofs.FileNames
import SchemaForms.Proofs.OrderedMap
import SchemaForms.Proofs.Traversal
/-! When a fixture passes. The errors of the prepare pass end the check and those of single forms do
not, so that a fixture which expects the latter still has its documents compared. -/
namespace SchemaForms

/-- A text that is a piece of another. -/
def Occurs (part text : String) : Prop := ∃ before after, text = before ++ part ++ after

theorem containsText_iff_isInfix {part text : List Char} :
    containsText part text = true ↔ part <:+: text := by
  induction text with
  | nil => rw [containsText, List.isEmpty_iff, List.infix_nil]
  | cons c rest ih =>
    rw [containsText, Bool.or_eq_true, List.isPrefixOf_iff_prefix, ih, List.infix_cons_iff]

theorem containsText_iff_occurs {part text : String} :
    containsText part.toList text.toList = true ↔ Occurs part text := by
  rw [containsText_iff_isInfix]
  constructor
  · rintro ⟨before, after, same⟩
    refine ⟨String.ofList before, String.ofList after, ?_⟩
    rw [← String.toList_inj, ← same]
    simp
  · rintro ⟨before, after, rfl⟩
    exact ⟨before.toList, after.toList, by simp⟩

namespace GeneratedForm

/-- One of the two files of the form has this name and this text. -/
def HasFile (form : GeneratedForm) (fileName text : String) : Prop :=
  fileName = form.formFile ∧ text = form.formText ∨
    fileName = form.localesFile ∧ text = form.localesText

theorem formFile_ne_localesFile (form : GeneratedForm) : form.formFile ≠ form.localesFile := by
  rw [formFile_eq, localesFile_eq]
  exact mt (String.append_right_inj _).mp form.operation.formEnding_ne_localesEnding

theorem get?_artifacts_iff {form : GeneratedForm} {fileName text : String} :
    Entries.get? form.artifacts fileName = some text ↔ form.HasFile fileName text := by
  have differ := form.formFile_ne_localesFile
  unfold artifacts HasFile
  rw [Entries.get?_cons, Entries.get?_cons]
  by_cases first : form.formFile = fileName
  · subst first
    simp [differ, eq_comm]
  · by_cases second : form.localesFile = fileName
    · subst second
      simp [Ne.symm differ, differ, eq_comm]
    · simp [first, second, Ne.symm first, Ne.symm second]

end GeneratedForm

namespace Generation

/-- The first form that has a file of this name has this text in it. -/
def Provides (generation : Generation) (fileName text : String) : Prop :=
  ∃ earlier form later, generation.forms = earlier ++ form :: later ∧
    form.HasFile fileName text ∧ ∀ other ∈ earlier, ∀ text, ¬ other.HasFile fileName text

theorem artifact?_eq_some_iff {generation : Generation} {fileName text : String} :
    generation.artifact? fileName = some text ↔ generation.Provides fileName text := by
  have lookup (forms : List GeneratedForm) :
      Entries.get? (forms.flatMap GeneratedForm.artifacts) fileName = some text ↔
        FirstFailure (GeneratedForm.HasFile · fileName) forms text := by
    induction forms with
    | nil => exact iff_of_false nofun not_firstFailure_nil
    | cons form rest ih =>
      rw [List.flatMap_cons, Entries.get?_append, firstFailure_cons, ← ih,
        ← GeneratedForm.get?_artifacts_iff]
      simp only [← GeneratedForm.get?_artifacts_iff]
      cases Entries.get? form.artifacts fileName <;> simp
  exact lookup generation.forms

theorem artifact?_eq_none_iff {generation : Generation} {fileName : String} :
    generation.artifact? fileName = none ↔ ∀ text, ¬ generation.Provides fileName text := by
  simp only [← artifact?_eq_some_iff, Option.eq_none_iff_forall_ne_some, ne_eq]

end Generation

namespace Fixture
variable {fixture : Fixture}

/-- The expected documents are generated and the files that must be absent are not. -/
structure Fits (fixture : Fixture) (generation : Generation) : Prop where
  expected : ∀ fileName document, (fileName, document) ∈ fixture.expected.entries →
    generation.Provides fileName document.pretty
  absent : ∀ fileName ∈ fixture.absent, ∀ text, ¬ generation.Provides fileName text

/-- The ways to pass. -/
inductive Passes (fixture : Fixture) : Prop where
  /-- No error is expected and none occurs. -/
  | generated {generator : Generator} (unexpected : fixture.error = none)
      (prepared : Generator.prepare fixture.schema fixture.rules = .ok generator)
      (complete : generator.generate.failures = []) (fits : fixture.Fits generator.generate)
  /-- The expected error ends the prepare pass. -/
  | unprepared {expected : String} {failure : FormError} (error : fixture.error = some expected)
      (stopped : Generator.prepare fixture.schema fixture.rules = .error failure)
      (occurs : Occurs expected failure.message)
  /-- The expected error is the first of those that forms failed with. -/
  | failed {expected : String} {generator : Generator} {failure : FormError}
      {others : List FormError} (error : fixture.error = some expected)
      (prepared : Generator.prepare fixture.schema fixture.rules = .ok generator)
      (failures : generator.generate.failures = failure :: others)
      (occurs : Occurs expected failure.message) (fits : fixture.Fits generator.generate)

theorem checkError_ok_iff {actual : FormError} :
    fixture.checkError actual = .ok () ↔
      ∃ expected, fixture.error = some expected ∧ Occurs expected actual.message := by
  unfold checkError
  cases fixture.error with
  | none => exact iff_of_false nofun fun ⟨_, some_error, _⟩ => nomatch some_error
  | some expected =>
    simp only [Option.some.injEq, exists_eq_left', ← containsText_iff_occurs]
    split
    · next occurs => exact iff_of_true rfl occurs
    · next occurs => exact iff_of_false nofun occurs

theorem checkExpected_ok_iff {generation : Generation} {fileName : String} {document : Json} :
    checkExpected generation (fileName, document) = .ok () ↔
      generation.Provides fileName document.pretty := by
  rw [← Generation.artifact?_eq_some_iff, checkExpected]
  cases generation.artifact? fileName with
  | none => exact iff_of_false nofun nofun
  | some text =>
    rw [Option.some.injEq]
    dsimp only
    split
    · next same => exact iff_of_true rfl same
    · next differs => exact iff_of_false nofun differs

theorem checkAbsent_ok_iff {generation : Generation} {fileName : String} :
    checkAbsent generation fileName = .ok () ↔ ∀ text, ¬ generation.Provides fileName text := by
  rw [← Generation.artifact?_eq_none_iff, checkAbsent]
  cases generation.artifact? fileName with
  | none => exact iff_of_true rfl rfl
  | some text => exact iff_of_false nofun nofun

theorem checkGeneration_ok_iff {generation : Generation} :
    fixture.checkGeneration generation = .ok () ↔
      fixture.checkFailures generation = .ok () ∧ fixture.Fits generation := by
  simp only [checkGeneration, bind_ok_iff, forM_ok_iff, Prod.forall, checkExpected_ok_iff,
    checkAbsent_ok_iff]
  constructor
  · rintro ⟨_, failures, _, expected, absent⟩
    exact ⟨failures, expected, absent⟩
  · rintro ⟨failures, expected, absent⟩
    exact ⟨(), failures, (), expected, absent⟩

/-- A fixture passes in these ways and in no other. -/
theorem check_ok_iff (fixture : Fixture) : fixture.check = .ok () ↔ fixture.Passes := by
  unfold check
  constructor
  · intro passed
    -- What has failed first, the prepare pass or a form, decides which error is compared.
    cases prepared : Generator.prepare fixture.schema fixture.rules with
    | error failure =>
      rw [prepared] at passed
      obtain ⟨expected, error, occurs⟩ := checkError_ok_iff.mp passed
      exact .unprepared error prepared occurs
    | ok generator =>
      rw [prepared] at passed
      obtain ⟨failures_pass, fits⟩ := checkGeneration_ok_iff.mp passed
      unfold checkFailures at failures_pass
      cases failures : generator.generate.failures with
      | cons failure others =>
        rw [failures] at failures_pass
        obtain ⟨expected, error, occurs⟩ := checkError_ok_iff.mp failures_pass
        exact .failed error prepared failures occurs fits
      | nil =>
        rw [failures] at failures_pass
        cases error : fixture.error with
        | none => exact .generated error prepared failures fits
        | some expected =>
          rw [error] at failures_pass
          cases failures_pass
  · rintro (⟨unexpected, prepared, complete, fits⟩ | ⟨error, stopped, occurs⟩ |
      ⟨error, prepared, failures, occurs, fits⟩)
    · rw [prepared]
      refine checkGeneration_ok_iff.mpr ⟨?_, fits⟩
      rw [checkFailures, complete, unexpected]
    · rw [stopped]
      exact checkError_ok_iff.mpr ⟨_, error, occurs⟩
    · rw [prepared]
      refine checkGeneration_ok_iff.mpr ⟨?_, fits⟩
      rw [checkFailures, failures]
      exact checkError_ok_iff.mpr ⟨_, error, occurs⟩

end Fixture
end SchemaForms
