import MarkupLint.Failure
import MarkupLint.Finding
import MarkupLint.Proofs.Text.Number
import MarkupLint.Proofs.Text.Search

set_option autoImplicit false

namespace MarkupLint.Finding

def lineStart (origin : Origin) (file? : Option Path) : List Char :=
  (match file? with
    | some file => toString file
    | none => origin.name).toList ++ [':']

def colonsOf (hasColumn : Bool) : Nat := if hasColumn then 2 else 1

def numberText (rest : List Char) : String := String.ofList (rest.takeWhile (· ≠ ':'))

-- A line that begins like a finding, with a number that can be read, and ends too early.
def CutShort (start : List Char) (colons : Nat) (line : String) : Prop :=
  ∃ rest number, line.toList = start ++ rest ∧ Text.readInteger (numberText rest) = .ok number ∧
    rest.count ':' < colons

theorem of_line_foreign (origin : Origin) (file? : Option Path) (hasColumn : Bool) (line : String)
    (foreign : Text.dropStart? (lineStart origin file?) line.toList = none) :
    ofLine origin file? hasColumn line = .error .foreign := by
  cases file? <;> simp only [lineStart] at foreign <;> simp only [ofLine, foreign]

@[simp]
theorem of_line_empty (origin : Origin) (file? : Option Path) (hasColumn : Bool) :
    ofLine origin file? hasColumn "" = .error .foreign := by
  apply of_line_foreign
  rw [Text.drop_start_none_iff, String.toList_empty, List.prefix_nil]
  exact List.append_ne_nil_of_right_ne_nil _ (List.cons_ne_nil _ _)

theorem of_line_own (origin : Origin) (file? : Option Path) (hasColumn : Bool) (line : String)
    (rest : List Char) (own : Text.dropStart? (lineStart origin file?) line.toList = some rest) :
    ofLine origin file? hasColumn line =
      match Text.readInteger (numberText rest) with
      | .error cause => .error (.number cause)
      | .ok number =>
          match (Text.splitAtMost ':' (colonsOf hasColumn) rest)[colonsOf hasColumn]? with
          | some message => .ok ⟨origin.name, number, String.ofList (Text.trim message)⟩
          | none => .error .missingPart := by
  have head : (Text.splitAtMost ':' (colonsOf hasColumn) rest).headD [] = rest.takeWhile (· ≠ ':') := by
    cases hasColumn <;> exact Text.split_at_most_head ':' _ rest
  rw [numberText, ← head]
  cases file? with
  | none => simp only [lineStart] at own; simp only [ofLine, own]; rfl
  | some file => simp only [lineStart] at own; simp only [ofLine, own]; rfl

theorem of_line_missing_part_iff (origin : Origin) (file? : Option Path) (hasColumn : Bool) (line : String) :
    ofLine origin file? hasColumn line = .error .missingPart ↔
      CutShort (lineStart origin file?) (colonsOf hasColumn) line := by
  cases own : Text.dropStart? (lineStart origin file?) line.toList with
  | none =>
      rw [of_line_foreign origin file? hasColumn line own]
      refine iff_of_false (by simp) ?_
      rintro ⟨rest, number, split, -⟩
      exact (Text.drop_start_none_iff _ _).mp own ⟨rest, split.symm⟩
  | some rest =>
      have split := (Text.drop_start_some_iff _ _ _).mp own
      have same : ∀ other, line.toList = lineStart origin file? ++ other → other = rest := fun other otherSplit =>
        List.append_cancel_left (otherSplit.symm.trans split)
      rw [of_line_own origin file? hasColumn line rest own]
      cases reads : Text.readInteger (numberText rest) with
      | error cause =>
          refine iff_of_false (by simp) ?_
          rintro ⟨other, number, otherSplit, otherReads, -⟩
          rw [same other otherSplit, reads] at otherReads
          cases otherReads
      | ok number =>
          -- A number alone is not enough: the message is the piece behind the last colon.
          have enough := Text.split_at_most_last_none_iff ':' (colonsOf hasColumn) rest
          have short : CutShort (lineStart origin file?) (colonsOf hasColumn) line ↔
              rest.count ':' < colonsOf hasColumn := by
            constructor
            · rintro ⟨other, _, otherSplit, -, few⟩
              rwa [same other otherSplit] at few
            · exact fun few => ⟨rest, number, split, reads, few⟩
          rw [short, ← enough]
          cases part : (Text.splitAtMost ':' (colonsOf hasColumn) rest)[colonsOf hasColumn]? <;> simp

theorem number_text_written (number : Int) (rest : List Char) :
    numberText ((toString number).toList ++ ':' :: rest) = toString number := by
  have absent := Text.to_string_absent number ':' (by decide) (by decide)
  rw [numberText, Text.take_until_separator ':' _ rest absent, String.ofList_toList]

section Written

variable (origin : Origin) (file? : Option Path) (number : Int) (words : List Char) (line : String)
  (short : (Nat.toDigits 10 number.natAbs).length ≤ Text.maxDigits)
include short

theorem of_line_written (spelled : line.toList = lineStart origin file? ++ ((toString number).toList ++ ':' :: words)) :
    ofLine origin file? false line = .ok ⟨origin.name, number, String.ofList (Text.trim words)⟩ := by
  have own := (Text.drop_start_some_iff _ _ _).mpr spelled
  have absent := Text.to_string_absent number ':' (by decide) (by decide)
  rw [of_line_own origin file? false line _ own, number_text_written, Text.read_integer_written,
    if_neg (Nat.not_lt.mpr short), colonsOf, if_neg (by decide), Text.split_at_most_cut ':' 0 _ _ absent]
  rfl

-- What stands between the second and the third colon is passed over, whatever it is.
theorem of_line_column (column : List Char) (single : ':' ∉ column)
    (spelled : line.toList =
      lineStart origin file? ++ ((toString number).toList ++ ':' :: (column ++ ':' :: words))) :
    ofLine origin file? true line = .ok ⟨origin.name, number, String.ofList (Text.trim words)⟩ := by
  have own := (Text.drop_start_some_iff _ _ _).mpr spelled
  have absent := Text.to_string_absent number ':' (by decide) (by decide)
  rw [of_line_own origin file? true line _ own, number_text_written, Text.read_integer_written,
    if_neg (Nat.not_lt.mpr short), colonsOf, if_pos rfl, Text.split_at_most_cut ':' 1 _ _ absent,
    Text.split_at_most_cut ':' 0 _ _ single]
  rfl

end Written

def passing : Except LineError Finding → Except Failure (Option Finding)
  | .ok finding => .ok (some finding)
  | .error .missingPart => .error .missingPart
  | .error _ => .ok none

theorem passing_error_iff (line : Except LineError Finding) :
    (∃ failure, passing line = .error failure) ↔ line = .error .missingPart := by
  rcases line with (_ | _ | _) | _ <;> simp [passing]

@[simp]
theorem passing_ok (line : Except LineError Finding) :
    (passing line).isOk = decide (line ≠ .error .missingPart) := by
  rcases line with (_ | _ | _) | _ <;> simp [passing, Except.isOk, Except.toBool]

@[simp]
theorem passing_found (line : Except LineError Finding) :
    (passing line).toOption.join = line.toOption := by
  rcases line with (_ | _ | _) | _ <;> rfl

def Categorised (message : String) : Prop :=
  ∃ level number rest : List Char, level ≠ [] ∧ (∀ c ∈ level, 'A' ≤ c ∧ c ≤ 'Z') ∧
    number ≠ [] ∧ (∀ c ∈ number, Text.isAsciiDigit c = true) ∧
    message.toList = '(' :: (level ++ '/' :: (number ++ ')' :: rest))

theorem has_category_iff (message : String) : hasCategory message = true ↔ Categorised message := by
  constructor
  · intro named
    rw [hasCategory] at named
    split at named
    · next rest opened =>
        have level := List.prefix_iff_eq_append.mp (List.takeWhile_prefix (l := rest) fun c => 'A' ≤ c && c ≤ 'Z')
        dsimp only at named
        split at named
        · next after divided =>
            have number := List.prefix_iff_eq_append.mp (List.takeWhile_prefix (l := after) Text.isAsciiDigit)
            simp only [Bool.and_eq_true, Bool.not_eq_true', List.isEmpty_eq_false_iff, decide_eq_true_eq] at named
            obtain ⟨⟨levelFilled, numberFilled⟩, closed⟩ := named
            obtain ⟨tail, behind⟩ := List.head?_eq_some_iff.mp closed
            refine ⟨_, _, tail, levelFilled, ?_, numberFilled, ?_, ?_⟩
            · intro c member
              simpa using List.mem_takeWhile_imp member
            · intro c member
              exact List.mem_takeWhile_imp member
            · rw [opened, ← behind, number, ← divided, level]
        · cases named
    · cases named
  · rintro ⟨level, number, rest, levelFilled, capital, numberFilled, digits, spelled⟩
    have levelTaken := Text.take_while_until (fun c => 'A' ≤ c && c ≤ 'Z') level (number ++ ')' :: rest) '/'
      (fun c member => by simpa using capital c member) (by decide)
    have numberTaken := Text.take_while_until Text.isAsciiDigit number rest ')' digits (by decide)
    simp [hasCategory, spelled, levelTaken, numberTaken, levelFilled, numberFilled]

theorem categorised_message (finding : Finding) : Categorised finding.categorised.message := by
  rw [categorised]
  by_cases named : hasCategory finding.message = true
  · rw [if_pos named]
    exact (has_category_iff finding.message).mp named
  · rw [if_neg named]
    have level : ∀ c ∈ "ERROR".toList, 'A' ≤ c ∧ c ≤ 'Z' := by simp
    have number : ∀ c ∈ ['3'], Text.isAsciiDigit c = true := by simp [Text.isAsciiDigit]
    exact ⟨"ERROR".toList, ['3'], ' ' :: finding.message.toList, by decide, level, by decide, number, by simp⟩

end MarkupLint.Finding
