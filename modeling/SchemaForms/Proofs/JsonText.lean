import SchemaForms.Json.Printer
import SchemaForms.Json.Reader
/-! Printed texts are read back. A document that is an object starts with its first member, so that
documents with different first members have different texts. -/
namespace SchemaForms.Json

/-- The digits of a control character's code. -/
theorem hexNumber?_hexDigits {code : Nat} (control : code < 0x20) :
    hexNumber? ['0', '0', hexDigit (code / 16), hexDigit (code % 16)] = some code := by
  have each : ∀ code < 0x20,
      hexNumber? ['0', '0', hexDigit (code / 16), hexDigit (code % 16)] = some code := by
    decide +kernel
  exact each code control

theorem readString_plain {c : Char} (not_quote : c ≠ '"') (not_backslash : c ≠ '\\')
    (printed : ¬ c.toNat < 0x20) (rest : List Char) :
    readString (c :: rest) = (readString rest).bind fun (text, rest) => some (c :: text, rest) := by
  rw [readString]
  · simp [printed, not_backslash]
  all_goals simp [not_quote, not_backslash]

/-- A character is read back from its escape. -/
theorem readString_escapeChar (c : Char) (rest : List Char) :
    readString (escapeChar c ++ rest) =
      (readString rest).bind fun (text, rest) => some (c :: text, rest) := by
  unfold escapeChar
  split
  any_goals rfl
  next not_quote not_backslash _ _ _ _ _ =>
    split
    · next control =>
      have low : isLowHalf c.toNat = false := by simp [isLowHalf]; omega
      have high : isHighHalf c.toNat = false := by simp [isHighHalf]; omega
      simp [readString, hexNumber?_hexDigits control, low, high]
    · next printed => exact readString_plain not_quote not_backslash printed rest

theorem readString_escaped (text rest : List Char) :
    readString (text.flatMap escapeChar ++ '"' :: rest) = some (text, rest) := by
  induction text with
  | nil => rfl
  | cons c others ih =>
    rw [List.flatMap_cons, List.append_assoc, readString_escapeChar, ih]
    rfl

/-- A printed text ends where its closing quote is. -/
theorem stringText_append_inj {first second rest rest' : String}
    (same : stringText first ++ rest = stringText second ++ rest') :
    first = second ∧ rest = rest' := by
  have read_back (value rest : String) :
      (stringText value ++ rest).toList =
        '"' :: (value.toList.flatMap escapeChar ++ '"' :: rest.toList) := by
    simp [stringText]
  have chars := congrArg String.toList same
  rw [read_back, read_back, List.cons_inj_right] at chars
  have parts := congrArg readString chars
  rw [readString_escaped, readString_escaped, Option.some.injEq, Prod.mk.injEq] at parts
  exact ⟨String.toList_inj.mp parts.1, String.toList_inj.mp parts.2⟩

theorem exists_pretty_object_cons (key text : String) (rest : Entries Json) :
    ∃ tail, (Json.object ((key, .string text) :: rest)).pretty =
      "\x7b" ++ newline 1 ++ (stringText key ++ (": " ++ (stringText text ++ tail))) := by
  have line_eq : stringText key ++ ": " ++ stringText text =
      stringText key ++ (": " ++ (stringText text ++ "")) := by
    rw [String.append_empty, String.append_assoc]
  refine ⟨("," ++ newline 1).intercalate ("" :: prettyMembers 1 rest) ++ newline 0 ++ "\x7d", ?_⟩
  simp only [pretty, prettyAt, block, prettyMembers, line_eq, String.intercalate_cons_append,
    String.append_assoc]

/-- The first member of a printed object can be told from its text. -/
theorem pretty_object_cons_inj {key key' text text' : String} {rest rest' : Entries Json}
    (same : (Json.object ((key, .string text) :: rest)).pretty =
      (Json.object ((key', .string text') :: rest')).pretty) : key = key' ∧ text = text' := by
  obtain ⟨tail, printed⟩ := exists_pretty_object_cons key text rest
  obtain ⟨tail', printed'⟩ := exists_pretty_object_cons key' text' rest'
  rw [printed, printed', String.append_right_inj] at same
  obtain ⟨keys, values⟩ := stringText_append_inj same
  rw [String.append_right_inj] at values
  exact ⟨keys, (stringText_append_inj values).1⟩

end SchemaForms.Json
