import MarkupLint.Check
import MarkupLint.Pattern.Reader
import MarkupLint.Proofs.Code.Diagnosis
import MarkupLint.Proofs.Format.JsonReader
import MarkupLint.Proofs.Pattern.Matching
import MarkupLint.Proofs.Tool.Complaints

set_option autoImplicit false

namespace MarkupLint.Code

open Pattern (Matches matches_chars matches_row contains_range char_within_iff)

def linePattern : Pattern :=
  ": line".toList.foldr (fun c rest => .both (.char c) rest) <|
    .both (.times (.one ⟨false, [.blank true]⟩) 1 none) <|
    .both (.both (.times (.one ⟨false, [.range '0' '9']⟩) 1 none) .empty) <|
    .both (.times (.one ⟨true, [.range ':' ':']⟩) 0 none) <| .both .textEnd .empty

theorem line_pattern_read : Pattern.ofText? ": line\\s+([0-9]+)[^:]*$" = some linePattern := by decide +kernel

theorem contains_blank (c : Char) : CharClass.contains ⟨false, [.blank true]⟩ c = Text.isBlank c := by
  simp [CharClass.contains, ClassItem.holds]

theorem contains_digit (c : Char) : CharClass.contains ⟨false, [.range '0' '9']⟩ c = Text.isAsciiDigit c := by
  simp [Text.isAsciiDigit]

theorem contains_other (c : Char) : CharClass.contains ⟨true, [.range ':' ':']⟩ c = decide (c ≠ ':') := by
  simp

theorem found_line_iff (text : String) :
    linePattern.foundIn text = true ↔ ∃ front blanks digits rest, NamesLine text.toList front blanks digits rest := by
  rw [Pattern.found_in_iff]
  constructor
  · rintro ⟨front, inside, behind, split, matched⟩
    obtain ⟨_, rfl, blanks, _, rfl, spaced, _, _, rfl, ⟨digits, _, rfl, counted, rfl⟩, rest, _, rfl, others, _, _, rfl,
      ⟨rfl, ends⟩, rfl⟩ := (matches_chars _ _ _ _ _).mp matched
    simp only [matches_row, contains_blank, contains_digit, contains_other, decide_eq_true_eq] at spaced counted others
    refine ⟨front, blanks, digits, rest ++ behind, ?_, ⟨List.ne_nil_of_length_pos spaced.1, spaced.2⟩,
      ⟨List.ne_nil_of_length_pos counted.1, counted.2⟩, ?_⟩
    · simp [split]
    · intro member
      rcases List.mem_append.mp member with inner | last
      · exact others.2 _ inner rfl
      · rcases ends with rfl | rfl
        · cases last
        · simp at last
  · rintro ⟨front, blanks, digits, rest, named⟩
    refine ⟨front, ": line".toList ++ (blanks ++ (digits ++ rest)), [], by simp [named.spelled], ?_⟩
    refine (matches_chars _ _ _ _ _).mpr ⟨_, rfl, blanks, digits ++ rest, rfl, ?_, digits, rest, rfl, ?_, ?_⟩
    · simp only [matches_row, contains_blank]
      exact ⟨List.length_pos_iff.mpr named.spaced.1, named.spaced.2⟩
    · refine ⟨digits, [], by simp, ?_, rfl⟩
      simp only [matches_row, contains_digit]
      exact ⟨List.length_pos_iff.mpr named.counted.1, named.counted.2⟩
    · refine ⟨rest, [], by simp, ?_, [], [], rfl, ⟨rfl, .inl rfl⟩, rfl⟩
      simp only [matches_row, contains_other, decide_eq_true_eq]
      exact ⟨Nat.zero_le _, fun c member same => named.last (same ▸ member)⟩

theorem names_line_whole (text front blanks digits rest : List Char) (named : NamesLine text front blanks digits rest) :
    NamesLine text front blanks (digits ++ rest.takeWhile Text.isAsciiDigit) (rest.dropWhile Text.isAsciiDigit) := by
  obtain ⟨spelled, spaced, counted, absent⟩ := named
  refine ⟨?_, spaced, ⟨List.append_ne_nil_of_left_ne_nil counted.1 _, ?_⟩, ?_⟩
  · rw [spelled, List.append_assoc _ (digits ++ _), List.append_assoc digits, List.takeWhile_append_dropWhile,
      List.append_assoc _ digits]
  · intro c member
    rcases List.mem_append.mp member with own | more
    · exact counted.2 c own
    · exact List.mem_takeWhile_imp more
  · exact fun member => absent ((List.dropWhile_suffix _).mem member)

theorem found_in_named_line (text : String) : linePattern.foundIn text = (namedLine? text.toList).isSome := by
  rw [Bool.eq_iff_iff, found_line_iff, Option.isSome_iff_exists]
  constructor
  · rintro ⟨front, blanks, digits, rest, named⟩
    have whole := names_line_whole _ _ _ _ _ named
    exact ⟨_, (named_line_iff _ _).mpr ⟨_, _, _, _, whole, Text.head_drop_while Text.isAsciiDigit rest, rfl⟩⟩
  · rintro ⟨number, found⟩
    obtain ⟨front, blanks, digits, rest, named, -⟩ := (named_line_iff _ number).mp found
    exact ⟨front, blanks, digits, rest, named⟩

theorem names_line_cut (text front blanks digits rest : List Char) (named : NamesLine text front blanks digits rest) :
    Text.cutLast? ':' text = some (front, " line".toList ++ (blanks ++ (digits ++ rest))) := by
  rw [Text.cut_last_some_iff, List.mem_append, not_or, ← List.append_assoc blanks]
  exact ⟨by simp [named.spelled], by decide, names_line_last _ _ _ _ _ named⟩

theorem names_line_unique (text front blanks digits rest place spaces number tail : List Char)
    (named : NamesLine text front blanks digits rest) (other : NamesLine text place spaces number tail) :
    place = front ∧ number ++ tail = digits ++ rest := by
  have same := (names_line_cut _ _ _ _ _ other).symm.trans (names_line_cut _ _ _ _ _ named)
  rw [Option.some.injEq, Prod.mk.injEq, List.append_cancel_left_eq] at same
  refine ⟨same.1, ?_⟩
  rw [← names_line_trimmed _ _ _ _ _ other, same.2, names_line_trimmed _ _ _ _ _ named]

theorem names_line_prefix (front : List Char) (number : Nat) (tail place blanks digits rest : List Char)
    (ends : ∀ c ∈ tail.head?, Text.isAsciiDigit c = false) (absent : ':' ∉ tail)
    (named : NamesLine (front ++ ": line ".toList ++ Nat.toDigits 10 number ++ tail) place blanks digits rest) :
    place = front ∧ digits <+: Nat.toDigits 10 number := by
  obtain ⟨same, tails⟩ := names_line_unique _ _ _ _ _ _ _ _ _ (names_line_written front number tail absent) named
  refine ⟨same, ?_⟩
  have whole := (Text.take_drop_while_row Text.isAsciiDigit _ tail (Text.written_ascii number) ends).1
  rw [← whole, ← tails, List.takeWhile_append_of_pos named.counted.2]
  exact List.prefix_append digits _

end MarkupLint.Code

namespace MarkupLint.Check

open Code (namedLine? NamesLine)

/-- The line is read off a message as its pattern says: the pattern is found exactly where a line is, it matches
behind the last colon only, and the number is taken to its last digit, whatever the message begins with. So a JSON
text that is refused at some place gives a single finding, at the line of this place. -/
theorem message_line_read (bench : Workbench) (nested : Request → Checking Report) (origin : Origin) (reportRank : Nat)
    (warnUnknown : Bool) (session : Session) :
    (∃ pattern, Pattern.ofText? ": line\\s+([0-9]+)[^:]*$" = some pattern ∧
      ∀ text : String, pattern.foundIn text = (namedLine? text.toList).isSome) ∧
    (∀ (front tail : String) (number : Nat), ':' ∉ tail.toList →
      (∀ c ∈ tail.toList.head?, Text.isAsciiDigit c = false) →
      namedLine? (front ++ ": line " ++ toString number ++ tail).toList = some number ∧
      ∀ place blanks digits rest,
        NamesLine (front ++ ": line " ++ toString number ++ tail).toList place blanks digits rest →
        place = front.toList ∧ digits <+: (toString number).toList) ∧
    ∀ code kind left, Json.read bench.nesting code.toList = .error (.fault kind left) → ∃ place column line : Nat,
      place + left = code.toList.length ∧ line = 1 + (code.toList.take place).count '\n' ∧
      (checkCode bench nested origin reportRank warnUnknown .json code).run session =
        (.ofFindings [⟨origin.name, line, kind.text ++ ": line " ++ toString line ++ " column " ++ toString column
          ++ " (char " ++ toString place ++ ")"⟩], session) := by
  refine ⟨⟨_, Code.line_pattern_read, Code.found_in_named_line⟩, fun front tail number absent ends => ?_,
    fun code kind left wrong => ?_⟩
  · have spelled : (front ++ ": line " ++ toString number ++ tail).toList =
        front.toList ++ ": line ".toList ++ Nat.toDigits 10 number ++ tail.toList := by simp
    have digits : (toString number).toList = Nat.toDigits 10 number := by simp
    rw [spelled, digits]
    exact ⟨Code.named_line_written _ number _ ends absent, fun place blanks digits rest =>
      Code.names_line_prefix _ number _ place blanks digits rest ends absent⟩
  · have within := Json.read_fault_within _ _ kind left wrong
    have found : Code.diagnoseJson bench.nesting code =
        .ok (some (Code.ofMessage (kind.message (code.toList.take (code.toList.length - left))))) := by
      rw [Code.diagnoseJson, wrong]
    generalize start : code.toList.length - left = place at found
    have length : (code.toList.take place).length = place := by
      rw [List.length_take]
      omega
    refine ⟨place, Json.columnAfter (code.toList.take place), Json.lineAfter (code.toList.take place), by omega,
      Nat.add_comm _ 1, ?_⟩
    change (ofDiagnosis origin (Code.diagnoseJson bench.nesting code), session) = _
    rw [found, Code.ofMessage, Code.json_message_line, Json.Fault.message, length]
    rfl

/-- A message that names two lines and ends with a line feed, and a text that ends where its third line should begin.
-/
theorem message_line_read_colons :
    namedLine? "a: line 7: b: line 12 (x)\n".toList = some 12 ∧
    (∃ pattern, Pattern.ofText? ": line\\s+([0-9]+)[^:]*$" = some pattern ∧
      pattern.foundIn "a: line 7: b: line 12 (x)\n" = true) ∧
    Json.read 9 "[\n1,\n".toList = .error (.fault .noValue 0) ∧
    ∃ column : Nat, (checkCode (Tool.grumbling []) (fun _ => pure .empty) .inMemory 1 false .json "[\n1,\n").run {} =
      (.ofFindings [⟨"<string>", 3, "Expecting value: line 3 column " ++ toString column ++ " (char 5)"⟩], {}) := by
  have wrong : Json.read 9 "[\n1,\n".toList = .error (.fault .noValue 0) := rfl
  obtain ⟨⟨pattern, known, searched⟩, named, refused⟩ :=
    message_line_read (Tool.grumbling []) (fun _ => pure .empty) .inMemory 1 false {}
  have ends : Text.isAsciiDigit ' ' = false := by decide
  have found : namedLine? "a: line 7: b: line 12 (x)\n".toList = some 12 :=
    (named "a: line 7: b" " (x)\n" 12 (by decide) (by simpa using ends)).1
  obtain ⟨place, column, line, placed, counted, report⟩ := refused _ _ _ wrong
  obtain rfl : place = 5 := placed
  obtain rfl : line = 3 := counted
  have spelled : Json.Fault.noValue.text ++ ": line " ++ toString 3 ++ " column " ++ toString column ++ " (char "
      ++ toString 5 ++ ")" = "Expecting value: line 3 column " ++ toString column ++ " (char 5)" := by
    rw [String.append_assoc, String.append_assoc]
    rfl
  rw [spelled] at report
  exact ⟨found, ⟨pattern, known, by rw [searched, found]; rfl⟩, wrong, column, report⟩

end MarkupLint.Check
