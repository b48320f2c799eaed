import MarkupLint.Code.Diagnosis
import MarkupLint.Proofs.Text.Number
import MarkupLint.Proofs.Text.Search

set_option autoImplicit false

namespace MarkupLint.Code

structure NamesLine (text front blanks digits rest : List Char) : Prop where
  spelled : text = front ++ ": line".toList ++ blanks ++ digits ++ rest
  spaced : blanks ≠ [] ∧ ∀ c ∈ blanks, Text.isBlank c = true
  counted : digits ≠ [] ∧ ∀ c ∈ digits, Text.isAsciiDigit c = true
  last : ':' ∉ rest

theorem ascii_digit_filled (c : Char) (ascii : Text.isAsciiDigit c = true) : Text.isBlank c = false := by
  have row := Text.is_row_ascii [c] (List.cons_ne_nil c []) (by simpa using ascii)
  have shown := Text.digit_of_table (fun d => !Text.isBlank d) (by decide +kernel) c (row.row c List.mem_cons_self)
  simpa using shown

theorem names_line_trimmed (text front blanks digits rest : List Char) (named : NamesLine text front blanks digits rest) :
    Text.trimLeft (blanks ++ (digits ++ rest)) = digits ++ rest := by
  refine (Text.take_drop_while_row Text.isBlank blanks _ named.spaced.2 ?_).2
  obtain ⟨d, others, filled⟩ := List.exists_cons_of_ne_nil named.counted.1
  simpa [filled] using ascii_digit_filled d (named.counted.2 d (by simp [filled]))

theorem number_then_iff (text : List Char) (number : Nat) :
    numberThen? text = some number ↔ ∃ blanks digits rest, NamesLine (": line".toList ++ text) [] blanks digits rest ∧
      (∀ c ∈ rest.head?, Text.isAsciiDigit c = false) ∧ Text.digitsValue digits = number := by
  constructor
  · intro read
    simp only [numberThen?, Option.ite_none_right_eq_some, Bool.and_eq_true, Bool.not_eq_true', decide_eq_true_eq,
      List.contains_eq_mem, decide_eq_false_iff_not, List.isEmpty_eq_false_iff, Option.some.injEq] at read
    obtain ⟨⟨⟨shorter, filled⟩, absent⟩, value⟩ := read
    have split := List.takeWhile_append_dropWhile (p := Text.isBlank) (l := text)
    have digits := List.takeWhile_append_dropWhile (p := Text.isAsciiDigit) (l := Text.trimLeft text)
    have behind := (congrArg (List.drop _) digits).symm.trans List.drop_left
    rw [behind] at absent
    refine ⟨text.takeWhile Text.isBlank, _, _, ⟨?_, ⟨?_, fun c => List.mem_takeWhile_imp⟩,
      ⟨filled, fun c => List.mem_takeWhile_imp⟩, absent⟩, Text.head_drop_while Text.isAsciiDigit _, value⟩
    · rw [List.append_assoc _ (List.takeWhile Text.isAsciiDigit _), digits, List.nil_append, List.append_assoc, Text.trimLeft,
        split]
    · intro none
      rw [none, List.nil_append] at split
      rw [Text.trimLeft, split] at shorter
      exact lt_irrefl _ shorter
  · rintro ⟨blanks, digits, rest, named, ends, value⟩
    have split : text = blanks ++ (digits ++ rest) := by simpa using named.spelled
    have trimmed : Text.trimLeft text = digits ++ rest := split ▸ names_line_trimmed _ _ _ _ _ named
    have row := (Text.take_drop_while_row Text.isAsciiDigit digits rest named.counted.2 ends).1
    have shorter : digits.length + rest.length < text.length := by
      have some := List.length_pos_iff.mpr named.spaced.1
      rw [split, List.length_append, List.length_append]
      omega
    simp [numberThen?, trimmed, row, shorter, named.counted.1, named.last, value]

theorem names_line_last (text front blanks digits rest : List Char) (named : NamesLine text front blanks digits rest) :
    ':' ∉ blanks ++ digits ++ rest := by
  intro member
  rcases List.mem_append.mp member with member | later
  · rcases List.mem_append.mp member with blank | digit
    · exact absurd (named.spaced.2 _ blank) (by decide)
    · exact absurd (named.counted.2 _ digit) (by decide)
  · exact named.last later

theorem number_then_absent (text : List Char) (number : Nat) (read : numberThen? text = some number) :
    ':' ∉ text := by
  obtain ⟨blanks, digits, rest, named, -⟩ := (number_then_iff text number).mp read
  have split : text = blanks ++ digits ++ rest := by simpa using named.spelled
  exact split ▸ names_line_last _ _ _ _ _ named

theorem named_line_cons (c : Char) (rest : List Char)
    (unnamed : (Text.dropStart? ": line".toList (c :: rest)).bind numberThen? = none) :
    namedLine? (c :: rest) = namedLine? rest := by
  rw [namedLine?, unnamed]

-- A line that is named before a colon has this colon behind its number.
theorem named_line_behind (front back : List Char) : namedLine? (front ++ ':' :: back) = namedLine? (':' :: back) := by
  induction front with
  | nil => rfl
  | cons c front ih =>
      refine (named_line_cons c _ ?_).trans ih
      rw [Option.bind_eq_none_iff]
      intro rest cut
      have split := (Text.drop_start_some_iff _ _ _).mp cut
      have tails : front ++ ':' :: back = " line".toList ++ rest := List.tail_eq_of_cons_eq split
      have member : ':' ∈ " line".toList ++ rest := tails ▸ by simp
      have later : ':' ∈ rest := (List.mem_append.mp member).resolve_left (by decide)
      rw [Option.eq_none_iff_forall_ne_some]
      exact fun number read => number_then_absent rest number read later

theorem named_line_iff (text : List Char) (number : Nat) :
    namedLine? text = some number ↔ ∃ front blanks digits rest, NamesLine text front blanks digits rest ∧
      (∀ c ∈ rest.head?, Text.isAsciiDigit c = false) ∧ Text.digitsValue digits = number := by
  constructor
  · intro found
    induction text with
    | nil => cases found
    | cons c text ih =>
        cases here : (Text.dropStart? ": line".toList (c :: text)).bind numberThen? with
        | some line =>
            rw [namedLine?, here] at found
            cases found
            obtain ⟨after, cut, read⟩ := Option.bind_eq_some_iff.mp here
            rw [(Text.drop_start_some_iff _ _ _).mp cut]
            exact ⟨[], (number_then_iff after number).mp read⟩
        | none =>
            rw [named_line_cons c text here] at found
            obtain ⟨front, blanks, digits, rest, ⟨spelled, spaced, counted, absent⟩, whole⟩ := ih found
            exact ⟨c :: front, blanks, digits, rest, ⟨by simp [spelled], spaced, counted, absent⟩, whole⟩
  · rintro ⟨front, blanks, digits, rest, ⟨spelled, spaced, counted, absent⟩, whole⟩
    have split : text = front ++ ':' :: (" line".toList ++ (blanks ++ digits ++ rest)) := by simp [spelled]
    have cut := (Text.drop_start_some_iff ": line".toList _ _).mpr
      (rfl : ':' :: (" line".toList ++ (blanks ++ digits ++ rest)) = _)
    have read := (number_then_iff (blanks ++ digits ++ rest) number).mpr
      ⟨blanks, digits, rest, ⟨by simp, spaced, counted, absent⟩, whole⟩
    rw [split, named_line_behind, namedLine?, cut, Option.bind_some, read]

theorem line_in_message_absent (text : List Char) (absent : ¬ ": line".toList <:+: text) : lineInMessage text = 0 := by
  have unnamed : namedLine? text = none := by
    rw [Option.eq_none_iff_forall_ne_some]
    intro number found
    obtain ⟨front, blanks, digits, rest, named, -⟩ := (named_line_iff text number).mp found
    exact absent ⟨front, blanks ++ digits ++ rest, by simp [named.spelled]⟩
  rw [lineInMessage, unnamed]
  rfl

theorem names_line_written (front : List Char) (number : Nat) (tail : List Char) (absent : ':' ∉ tail) :
    NamesLine (front ++ ": line ".toList ++ Nat.toDigits 10 number ++ tail) front [' '] (Nat.toDigits 10 number) tail :=
  ⟨by simp, ⟨List.cons_ne_nil _ _, List.forall_mem_singleton.mpr (by decide)⟩,
    ⟨(Text.written_row number).filled, Text.written_ascii number⟩, absent⟩

theorem named_line_written (front : List Char) (number : Nat) (tail : List Char)
    (ends : ∀ c ∈ tail.head?, Text.isAsciiDigit c = false) (absent : ':' ∉ tail) :
    namedLine? (front ++ ": line ".toList ++ Nat.toDigits 10 number ++ tail) = some number :=
  (named_line_iff _ number).mpr
    ⟨front, _, _, tail, names_line_written front number tail absent, ends, Text.digits_value_written number⟩

theorem json_message_line (fault : Json.Fault) (before : List Char) :
    lineInMessage (fault.message before).toList = Json.lineAfter before := by
  have absent (number : Nat) : ':' ∉ Nat.toDigits 10 number := Text.written_absent number ':' (by decide)
  have split : (fault.message before).toList =
      fault.text.toList ++ ": line ".toList ++ Nat.toDigits 10 (Json.lineAfter before) ++
        ' ' :: ("column ".toList ++ Nat.toDigits 10 (Json.columnAfter before) ++ " (char ".toList ++
          Nat.toDigits 10 before.length ++ [')']) := by
    simp [Json.Fault.message]
  have ends : Text.isAsciiDigit ' ' = false := by decide
  rw [lineInMessage, split, named_line_written _ _ _ (by simpa using ends) (by simp [absent])]
  rfl

theorem xml_message_line (fault : Xml.Fault) (text : List Char) :
    lineInMessage (fault.message text).toList = (Xml.position (text.length - fault.left) 1 0 text).1 := by
  have absent (number : Nat) : ':' ∉ Nat.toDigits 10 number := Text.written_absent number ':' (by decide)
  have split : (fault.message text).toList =
      fault.cause.message.toList ++ ": line ".toList ++
        Nat.toDigits 10 (Xml.position (text.length - fault.left) 1 0 text).1 ++
        ',' :: (" column ".toList ++ Nat.toDigits 10 (Xml.position (text.length - fault.left) 1 0 text).2) := by
    simp [Xml.Fault.message]
  have ends : Text.isAsciiDigit ',' = false := by decide
  rw [lineInMessage, split, named_line_written _ _ _ (by simpa using ends) (by simp [absent])]
  rfl

theorem yaml_mark_message_eq (text : List Char) (mark : Yaml.Mark) :
    mark.message text = "  in \"<unicode string>\", line " ++ toString (mark.line + 1) ++ ", column " ++
      toString (mark.column + 1) ++ ":\n" ++ mark.excerpt text :=
  rfl

theorem yaml_fault_message_ends (text : List Char) (activity : Option Yaml.Activity) (start : Option Yaml.Mark)
    (cause : Yaml.Cause) (mark : Yaml.Mark) :
    ∃ front, Yaml.Fault.message text (.marked activity start cause mark) = front ++ "\n" ++ mark.message text := by
  have joined : ∃ begun, Yaml.Fault.message text (.marked activity start cause mark) =
      String.intercalate "\n" (begun ++ [cause.message, mark.message text]) := ⟨_, rfl⟩
  obtain ⟨begun, joined⟩ := joined
  rw [joined, List.append_cons, String.intercalate_append_of_ne_nil (by simp) (by simp), String.intercalate_singleton]
  exact ⟨_, rfl⟩

-- The mark is followed by a colon, so that only the excerpt behind it can name a line.
theorem yaml_message_line (text : List Char) (activity : Option Yaml.Activity) (start : Option Yaml.Mark)
    (cause : Yaml.Cause) (mark : Yaml.Mark) :
    lineInMessage (Yaml.Fault.message text (.marked activity start cause mark)).toList =
      lineInMessage (mark.excerpt text).toList := by
  obtain ⟨front, ends⟩ := yaml_fault_message_ends text activity start cause mark
  have split : (Yaml.Fault.message text (.marked activity start cause mark)).toList =
      (front ++ "\n" ++ ("  in \"<unicode string>\", line " ++ toString (mark.line + 1) ++ ", column " ++
        toString (mark.column + 1))).toList ++ ':' :: '\n' :: (mark.excerpt text).toList := by
    rw [ends, yaml_mark_message_eq]
    simp
  rw [lineInMessage, split, named_line_behind]
  exact congrArg (Option.getD · 0) ((named_line_cons _ _ rfl).trans (named_line_cons _ _ rfl))

end MarkupLint.Code
