import MarkupLint.Proofs.Text.Pieces
import MarkupLint.Text.Digit
import MarkupLint.Text.Letter
import Mathlib.Data.Char
import Mathlib.Data.List.Induction
import Mathlib.Data.List.Lex
import Mathlib.Data.List.TakeWhile
import Mathlib.Tactic.Ring

set_option autoImplicit false

namespace MarkupLint.Text

-- What holds of the ten digits of every script holds of every digit.
theorem digit_of_table (holds : Char → Bool)
    (table : (zeroDigits.all fun first => (List.range 10).all fun value => holds (Char.ofNat (first + value))) = true)
    (c : Char) (digit : isDigit c = true) : holds c = true := by
  rw [isDigit, digitValue?, Option.isSome_map] at digit
  obtain ⟨first, found⟩ := Option.isSome_iff_exists.mp digit
  have within := List.find?_some found
  simp only [Bool.and_eq_true, decide_eq_true_eq] at within
  have script := List.all_eq_true.mp table first (List.mem_of_find?_eq_some found)
  have held := List.all_eq_true.mp script (c.toNat - first) (List.mem_range.mpr (by omega))
  have spelled : Char.ofNat (first + (c.toNat - first)) = c := by
    rw [Nat.add_sub_cancel' within.1, Char.ofNat_toNat]
  rwa [spelled] at held

theorem digit_plain (c : Char) (digit : isDigit c = true) :
    isNumberSpace c = false ∧ c ≠ '-' ∧ c ≠ '+' ∧ c ≠ '_' ∧ c ≠ '.' ∧ c ≠ '\n' := by
  have held := digit_of_table (fun c => !isNumberSpace c && c != '-' && c != '+' && c != '_' && c != '.' && c != '\n')
    (by decide +kernel) c digit
  simpa [and_assoc] using held

theorem digit_value_lt (c : Char) : (digitValue? c).getD 0 < 10 := by
  cases found : digitValue? c with
  | none => simp
  | some value =>
      obtain ⟨first, script, rfl⟩ := Option.map_eq_some_iff.mp found
      have within := List.find?_some script
      simp only [Bool.and_eq_true, decide_eq_true_eq] at within
      change c.toNat - first < 10
      omega

theorem ascii_digit_value (c : Char) (ascii : isAsciiDigit c = true) : digitValue? c = some (c.toNat - '0'.toNat) := by
  simp only [isAsciiDigit, Bool.and_eq_true, decide_eq_true_eq] at ascii
  have lower : 0x30 ≤ c.toNat := ascii.1
  have upper : c.toNat < 0x30 + 10 := Nat.lt_succ_of_le ascii.2
  obtain ⟨others, table⟩ : ∃ others, zeroDigits = 0x30 :: others := ⟨_, rfl⟩
  rw [digitValue?, table, List.find?_cons, decide_eq_true lower, decide_eq_true upper]
  rfl

structure IsRow (digits : List Char) : Prop where
  filled : digits ≠ []
  row : ∀ c ∈ digits, isDigit c = true

instance (digits : List Char) : Decidable (IsRow digits) :=
  decidable_of_iff (digits ≠ [] ∧ digits.all isDigit = true)
    ⟨fun ⟨filled, row⟩ => ⟨filled, List.all_eq_true.mp row⟩, fun ⟨filled, row⟩ => ⟨filled, List.all_eq_true.mpr row⟩⟩

theorem is_row_ascii (digits : List Char) (filled : digits ≠ []) (ascii : ∀ c ∈ digits, isAsciiDigit c = true) :
    IsRow digits :=
  ⟨filled, fun c member => by simp [isDigit, ascii_digit_value c (ascii c member)]⟩

theorem digits_value_append (digits more : List Char) :
    digitsValue (digits ++ more) = digitsValue digits * 10 ^ more.length + digitsValue more := by
  induction more using List.reverseRecOn with
  | nil => simp [digitsValue]
  | append_singleton more c ih =>
      have snoc (row : List Char) : digitsValue (row ++ [c]) = 10 * digitsValue row + (digitValue? c).getD 0 := by
        rw [digitsValue, List.foldl_append]
        rfl
      rw [← List.append_assoc, snoc, snoc, ih, List.length_append, List.length_singleton]
      ring

theorem digits_value_cons (c : Char) (digits : List Char) :
    digitsValue (c :: digits) = digitsValue [c] * 10 ^ digits.length + digitsValue digits :=
  digits_value_append [c] digits

theorem digits_value_lt (digits : List Char) : digitsValue digits < 10 ^ digits.length := by
  induction digits with
  | nil => simp [digitsValue]
  | cons c digits ih =>
      have first : digitsValue [c] < 10 := by simpa [digitsValue] using digit_value_lt c
      calc digitsValue (c :: digits)
        _ = digitsValue [c] * 10 ^ digits.length + digitsValue digits := digits_value_cons c digits
        _ < digitsValue [c] * 10 ^ digits.length + 10 ^ digits.length := Nat.add_lt_add_left ih _
        _ = (digitsValue [c] + 1) * 10 ^ digits.length := by ring
        _ ≤ 10 * 10 ^ digits.length := Nat.mul_le_mul_right _ first
        _ = 10 ^ (c :: digits).length := by rw [List.length_cons, Nat.pow_succ']

@[simp]
theorem digits_value_written (number : Nat) : digitsValue (Nat.toDigits 10 number) = number := by
  have single : ∀ value < 10, digitsValue [Nat.digitChar value] = value := by decide
  induction number using Nat.strongRecOn with
  | ind number ih =>
      rw [Nat.toDigits_eq_if (by decide)]
      by_cases small : number < 10
      · rw [if_pos small, single number small]
      · rw [if_neg small, digits_value_append, ih (number / 10) (by omega), single _ (Nat.mod_lt number (by decide))]
        exact Nat.div_add_mod' number 10

theorem written_ascii (number : Nat) : ∀ c ∈ Nat.toDigits 10 number, isAsciiDigit c = true := by
  intro c member
  have digit := Nat.isDigit_of_mem_toDigits (by decide) (by decide) member
  rw [Char.isDigit, Bool.and_eq_true, decide_eq_true_eq, decide_eq_true_eq] at digit
  rw [isAsciiDigit, Bool.and_eq_true, decide_eq_true_eq, decide_eq_true_eq]
  exact digit

theorem written_absent (number : Nat) (c : Char) (other : isAsciiDigit c = false) :
    c ∉ Nat.toDigits 10 number :=
  fun member => by simp [written_ascii number c member] at other

theorem written_row (number : Nat) : IsRow (Nat.toDigits 10 number) :=
  is_row_ascii _ (List.ne_nil_of_length_pos Nat.length_toDigits_pos) (written_ascii number)

theorem written_short (number : Nat) (long : 1 < (Nat.toDigits 10 number).length) : 10 ≤ number := by
  by_contra small
  rw [Nat.toDigits_eq_if (by decide), if_pos (by omega)] at long
  simp at long

theorem read_integer_signed (text : String) (negative : Bool) (digits : List Char) (written : IsRow digits)
    (signed : splitSign (text.toList.dropWhile isNumberSpace) = (negative, digits)) :
    readInteger text =
      if maxDigits < digits.length then .error (.tooLong digits.length)
      else .ok (if negative then -(digitsValue digits : Int) else (digitsValue digits : Int)) := by
  obtain ⟨filled, row⟩ := written
  have whole : (digits.takeWhile fun c => isDigit c || c = '_') = digits :=
    List.takeWhile_eq_self_iff.mpr fun c member => by simp [row c member]
  have single : splitOnChar '_' digits = [digits] :=
    split_on_char_whole '_' digits fun member => (digit_plain _ (row _ member)).2.2.2.1 rfl
  simp [readInteger, signed, whole, single, filled]

theorem read_integer_row (digits : List Char) (written : IsRow digits) :
    readInteger (String.ofList digits) =
      if maxDigits < digits.length then .error (.tooLong digits.length) else .ok (digitsValue digits : Int) := by
  refine read_integer_signed (String.ofList digits) false digits written ?_
  rw [String.toList_ofList]
  cases digits with
  | nil => exact absurd rfl written.filled
  | cons c rest =>
      obtain ⟨noSpace, minus, plus, -⟩ := digit_plain c (written.row c List.mem_cons_self)
      rw [List.dropWhile_cons_of_neg (by simp [noSpace]), splitSign.eq_3 (c :: rest)]
      · simp [minus]
      · simp [plus]

theorem to_string_whole (number : Int) :
    (toString number).toList = (if number < 0 then ['-'] else []) ++ Nat.toDigits 10 number.natAbs := by
  cases number with
  | ofNat number =>
      change (toString number).toList = _
      rw [Nat.toString_eq_ofList_toDigits, String.toList_ofList]
      rfl
  | negSucc number =>
      change ("-" ++ toString (number + 1)).toList = _
      rw [if_pos (Int.negSucc_lt_zero number)]
      simp only [String.toList_append, Nat.toString_eq_ofList_toDigits, String.toList_ofList]
      rfl

@[simp]
theorem to_string_natural (number : Nat) : toString (number : Int) = toString number := rfl

theorem to_string_head (number : Int) :
    ∃ c, (toString number).toList.head? = some c ∧ (c = '-' ∨ isAsciiDigit c = true) := by
  rw [to_string_whole]
  by_cases negative : number < 0
  · exact ⟨'-', by simp [negative], .inl rfl⟩
  · obtain ⟨c, rest, spelled⟩ := List.exists_cons_of_ne_nil (written_row number.natAbs).filled
    refine ⟨c, by simp [negative, spelled], .inr (written_ascii number.natAbs c ?_)⟩
    rw [spelled]
    exact List.mem_cons_self

theorem to_string_absent (number : Int) (c : Char) (noMinus : c ≠ '-') (other : isAsciiDigit c = false) :
    c ∉ (toString number).toList := by
  rw [to_string_whole, List.mem_append, not_or]
  refine ⟨?_, written_absent number.natAbs c other⟩
  split
  · simpa using noMinus
  · simp

theorem read_integer_written (number : Int) :
    readInteger (toString number) =
      if maxDigits < (Nat.toDigits 10 number.natAbs).length then
        .error (.tooLong (Nat.toDigits 10 number.natAbs).length)
      else .ok number := by
  have row := written_row number.natAbs
  have value := digits_value_written number.natAbs
  by_cases negative : number < 0
  · have signed : splitSign ((toString number).toList.dropWhile isNumberSpace) = (true, Nat.toDigits 10 number.natAbs) := by
      rw [to_string_whole, if_pos negative]
      rfl
    rw [read_integer_signed (toString number) true _ row signed, value, if_pos rfl,
      show -(number.natAbs : Int) = number by omega]
  · have spelled : toString number = String.ofList (Nat.toDigits 10 number.natAbs) := by
      rw [← String.toList_inj, to_string_whole, if_neg negative, String.toList_ofList, List.nil_append]
    rw [spelled, read_integer_row _ row, value, show (number.natAbs : Int) = number by omega]

theorem append_lt_append_iff (first second rest other : List Char) (same : first.length = second.length) :
    first ++ rest < second ++ other ↔ first < second ∨ first = second ∧ rest < other := by
  induction first generalizing second with
  | nil =>
      cases second with
      | nil => simp
      | cons c second => simp at same
  | cons b first ih =>
      cases second with
      | nil => simp at same
      | cons c second =>
          have tails := ih second (by simpa using same)
          rw [List.cons_append, List.cons_append, List.cons_lt_cons_iff, List.cons_lt_cons_iff, tails, List.cons.injEq]
          tauto

theorem ascii_digit_code (c : Char) (ascii : isAsciiDigit c = true) : digitsValue [c] + '0'.toNat = c.toNat := by
  have value : digitsValue [c] = c.toNat - '0'.toNat := by simp [digitsValue, ascii_digit_value c ascii]
  simp only [isAsciiDigit, Bool.and_eq_true, decide_eq_true_eq] at ascii
  rw [value]
  exact Nat.sub_add_cancel ascii.1

section SameLength

variable (first second : List Char) (same : first.length = second.length)
  (firstAscii : ∀ c ∈ first, isAsciiDigit c = true) (secondAscii : ∀ c ∈ second, isAsciiDigit c = true)

include same firstAscii secondAscii

theorem digits_value_increases (less : first < second) : digitsValue first < digitsValue second := by
  induction first generalizing second with
  | nil =>
      cases second with
      | nil => exact absurd less (lt_irrefl _)
      | cons c second => simp at same
  | cons b first ih =>
      cases second with
      | nil => simp at same
      | cons c second =>
          rw [List.length_cons, List.length_cons, Nat.add_right_cancel_iff] at same
          rw [List.forall_mem_cons] at firstAscii secondAscii
          rw [digits_value_cons b first, digits_value_cons c second, same]
          rcases List.cons_lt_cons_iff.mp less with smaller | ⟨rfl, tails⟩
          · -- A smaller first digit decides, as the other digits come to less than one of it.
            have code : b.toNat < c.toNat := smaller
            rw [← ascii_digit_code b firstAscii.1, ← ascii_digit_code c secondAscii.1] at code
            have room : digitsValue first < 10 ^ second.length := same ▸ digits_value_lt first
            calc digitsValue [b] * 10 ^ second.length + digitsValue first
              _ < digitsValue [b] * 10 ^ second.length + 10 ^ second.length := Nat.add_lt_add_left room _
              _ = (digitsValue [b] + 1) * 10 ^ second.length := by ring
              _ ≤ digitsValue [c] * 10 ^ second.length := Nat.mul_le_mul_right _ (by omega)
              _ ≤ digitsValue [c] * 10 ^ second.length + digitsValue second := Nat.le_add_right _ _
          · exact Nat.add_lt_add_left (ih second same firstAscii.2 secondAscii.2 tails) _

theorem digits_lt_iff : first < second ↔ digitsValue first < digitsValue second := by
  refine ⟨digits_value_increases first second same firstAscii secondAscii, fun less => ?_⟩
  rcases lt_trichotomy first second with smaller | rfl | greater
  · exact smaller
  · exact absurd less (lt_irrefl _)
  · exact absurd (digits_value_increases second first same.symm secondAscii firstAscii greater) (lt_asymm less)

theorem digits_eq_iff : first = second ↔ digitsValue first = digitsValue second := by
  refine ⟨congrArg digitsValue, fun equal => ?_⟩
  rcases lt_trichotomy first second with smaller | rfl | greater
  · exact absurd equal (digits_value_increases first second same firstAscii secondAscii smaller).ne
  · rfl
  · exact absurd equal.symm (digits_value_increases second first same.symm secondAscii firstAscii greater).ne

end SameLength

end MarkupLint.Text
