import MarkupLint.Proofs.Batch.Status
import MarkupLint.Proofs.Text.Blank

set_option autoImplicit false

namespace MarkupLint

namespace Finding

structure Bare (message : String) : Prop where
  filled : message ≠ ""
  starts : ∀ c, message.toList.head? = some c → Text.isBlank c = false
  ends : ∀ c, message.toList.getLast? = some c → Text.isBlank c = false

theorem trim_behind_blank (message : String) (bare : Bare message) :
    String.ofList (Text.trim (' ' :: message.toList)) = message := by
  have stripped : Text.Stripped (' ' :: message.toList) message.toList := by
    refine ⟨⟨[' '], [], by simp, ?_, by simp⟩, bare.starts, bare.ends⟩
    intro c member
    rw [List.mem_singleton.mp member]
    decide
  rw [(Text.trim_eq_iff _ _).mpr stripped, String.ofList_toList]

theorem bare_categorised (finding : Finding) (bare : Bare finding.message) : Bare finding.categorised.message := by
  rw [categorised]
  by_cases named : hasCategory finding.message = true
  · rw [if_pos named]
    exact bare
  · rw [if_neg named]
    have text : finding.message.toList ≠ [] := fun empty => bare.filled (String.toList_eq_nil_iff.mp empty)
    constructor
    · exact fun empty => by simpa using congrArg String.toList empty
    · intro c first
      have opened : c = '(' := by simpa [eq_comm] using first
      rw [opened]
      decide
    · -- The message has text, so the last character is its own.
      intro c last
      rw [String.toList_append, List.getLast?_append_of_ne_nil _ text] at last
      exact bare.ends c last

theorem categorised_cases (finding : Finding) :
    finding.categorised = finding ∧ Categorised finding.message ∨
      finding.categorised = { finding with message := "(ERROR/3) " ++ finding.message } ∧
        ¬ Categorised finding.message := by
  rw [categorised, ← has_category_iff]
  by_cases named : hasCategory finding.message = true
  · exact .inl ⟨if_pos named, named⟩
  · exact .inr ⟨if_neg named, named⟩

section Written

variable (origin : Origin) (number : Int) (message : String) (bare : Bare message)
  (short : (Nat.toDigits 10 number.natAbs).length ≤ Text.maxDigits)
include bare short

theorem of_line_to_line :
    ofLine origin none false (toLine ⟨origin.name, number, message⟩) = .ok ⟨origin.name, number, message⟩ := by
  have spelled : (toLine ⟨origin.name, number, message⟩).toList =
      lineStart origin none ++ ((toString number).toList ++ ':' :: (' ' :: message.toList)) := by
    simp [toLine, lineStart]
  rw [of_line_written origin none number _ _ short spelled, trim_behind_blank message bare]

theorem of_line_with_column (column : Int) :
    ofLine origin none true (origin.name ++ ":" ++ toString number ++ ":" ++ toString column ++ ": " ++ message) =
      .ok ⟨origin.name, number, message⟩ := by
  have spelled : (origin.name ++ ":" ++ toString number ++ ":" ++ toString column ++ ": " ++ message).toList =
      lineStart origin none ++
        ((toString number).toList ++ ':' :: ((toString column).toList ++ ':' :: (' ' :: message.toList))) := by
    simp [lineStart]
  have single := Text.to_string_absent column ':' (by decide) (by decide)
  rw [of_line_column origin none number _ _ short _ single spelled, trim_behind_blank message bare]

end Written

end Finding

namespace Batch

open Finding (Bare Categorised)

theorem report_lines_at (batch : Batch) (index : Nat) (finding : Finding)
    (held : batch.findings[index]? = some finding) : batch.reportLines[index]? = some finding.categorised.toLine := by
  obtain ⟨inside, -⟩ := List.getElem?_eq_some_iff.mp held
  have found : ¬ batch.isClean = true := by
    rw [is_clean_iff]
    rintro ⟨nothing, -⟩
    simp [nothing] at inside
  rw [reportLines, if_neg found, List.getElem?_append_left (by simpa using inside), List.getElem?_map, held]
  rfl

/-- A line with an origin, a number and a message is read as the finding that it was written from, with a column or
without one, whatever colons are in the origin and the message. So each line of a report is read as its finding; only
a message without a category has one in front of it then. -/
theorem report_lines_read_back (origin : Origin) (number column : Int) (message : String) (bare : Bare message)
    (short : (Nat.toDigits 10 number.natAbs).length ≤ Text.maxDigits) :
    Finding.ofLine origin none false (origin.name ++ ":" ++ toString number ++ ": " ++ message) =
      .ok ⟨origin.name, number, message⟩ ∧
    Finding.ofLine origin none true
        (origin.name ++ ":" ++ toString number ++ ":" ++ toString column ++ ": " ++ message) =
      .ok ⟨origin.name, number, message⟩ ∧
    ∀ (batch : Batch) (index : Nat), batch.findings[index]? = some ⟨origin.name, number, message⟩ →
      ∃ line shown, batch.reportLines[index]? = some line ∧
        Finding.ofLine origin none false line = .ok ⟨origin.name, number, shown⟩ ∧
        (shown = message ∧ Categorised message ∨ shown = "(ERROR/3) " ++ message ∧ ¬ Categorised message) := by
  refine ⟨Finding.of_line_to_line origin number message bare short,
    Finding.of_line_with_column origin number message bare short column, ?_⟩
  intro batch index held
  have printed := report_lines_at batch index _ held
  have whole := Finding.bare_categorised ⟨origin.name, number, message⟩ bare
  rcases Finding.categorised_cases ⟨origin.name, number, message⟩ with ⟨same, named⟩ | ⟨added, plain⟩
  · rw [same] at printed whole
    exact ⟨_, message, printed, Finding.of_line_to_line origin number message whole short, .inl ⟨rfl, named⟩⟩
  · rw [added] at printed whole
    exact ⟨_, "(ERROR/3) " ++ message, printed, Finding.of_line_to_line origin number _ whole short, .inr ⟨rfl, plain⟩⟩

/-- An origin and a message with colons, and a second finding that has its category. -/
theorem report_lines_read_back_colons :
    let batch : Batch := { settings := {}, overwrite := true, paths := []
                           findings := [⟨"b", 1, "(INFO/1) y"⟩, ⟨"a:7: c", -12, "x: (ERROR/3): z"⟩] }
    Bare "x: (ERROR/3): z" ∧
    Finding.ofLine (.text "a:7: c") none true "a:7: c:-12:5: x: (ERROR/3): z" = .ok ⟨"a:7: c", -12, "x: (ERROR/3): z"⟩ ∧
    ∃ line, batch.reportLines[1]? = some line ∧
      Finding.ofLine (.text "a:7: c") none false line = .ok ⟨"a:7: c", -12, "(ERROR/3) x: (ERROR/3): z"⟩ := by
  intro batch
  have bare : Bare "x: (ERROR/3): z" := ⟨by decide, by simp [Text.isBlank], by simp [Text.isBlank]⟩
  obtain ⟨-, withColumn, printed⟩ := report_lines_read_back (.text "a:7: c") (-12) 5 "x: (ERROR/3): z" bare (by decide)
  obtain ⟨line, shown, written, read, same | added⟩ := printed batch 1 rfl
  · have plain : Finding.hasCategory "x: (ERROR/3): z" = false := by decide +kernel
    exact absurd ((Finding.has_category_iff _).mpr same.2) (by simp [plain])
  · rw [added.1] at read
    exact ⟨bare, withColumn, line, written, read⟩

end Batch

end MarkupLint
