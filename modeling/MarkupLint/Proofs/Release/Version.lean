import MarkupLint.Proofs.Text.Number
import MarkupLint.Proofs.Text.Search
import MarkupLint.Release.Version
import Mathlib.Data.Prod.Lex

set_option autoImplicit false

namespace MarkupLint.Version

open Text (IsRow digitsValue)

structure Written (version : Version) : Prop where
  major : IsRow version.major
  minor : IsRow version.minor
  patch : IsRow version.patch

instance (version : Version) : Decidable version.Written :=
  decidable_of_iff (IsRow version.major ∧ IsRow version.minor ∧ IsRow version.patch)
    ⟨fun ⟨major, minor, patch⟩ => ⟨major, minor, patch⟩, fun ⟨major, minor, patch⟩ => ⟨major, minor, patch⟩⟩

def numbers (version : Version) : ℕ ×ₗ ℕ ×ₗ ℕ :=
  toLex (digitsValue version.major, toLex (digitsValue version.minor, digitsValue version.patch))

def part (version : Version) : ReleaseKind → List Char
  | .patch => version.patch
  | .minor => version.minor
  | .major => version.major

def withPart (version : Version) (digits : List Char) : ReleaseKind → Version
  | .patch => ⟨version.major, version.minor, digits⟩
  | .minor => ⟨version.major, digits, ['0']⟩
  | .major => ⟨digits, ['0'], ['0']⟩

def kept (version : Version) : ReleaseKind → ℕ ×ₗ ℕ ×ₗ ℕ
  | .patch => version.numbers
  | .minor => toLex (digitsValue version.major, toLex (digitsValue version.minor, 0))
  | .major => toLex (digitsValue version.major, toLex (0, 0))

theorem digits_of_row (digits rest : List Char) (written : IsRow digits)
    (ends : ∀ c ∈ rest.head?, Text.isDigit c = false) : digits? (digits ++ rest) = some (digits, rest) := by
  obtain ⟨taken, dropped⟩ := Text.take_drop_while_row Text.isDigit digits rest written.row ends
  obtain ⟨c, others, spelled⟩ := List.exists_cons_of_ne_nil written.filled
  rw [digits?, taken, dropped, spelled]

theorem digits_iff (text digits rest : List Char) :
    digits? text = some (digits, rest) ↔
      IsRow digits ∧ text = digits ++ rest ∧ ∀ c ∈ rest.head?, Text.isDigit c = false := by
  constructor
  · intro found
    rw [digits?] at found
    split at found
    · cases found
    · next row filled =>
        cases found
        exact ⟨⟨filled, fun c member => List.mem_takeWhile_imp member⟩, List.takeWhile_append_dropWhile.symm,
          Text.head_drop_while Text.isDigit text⟩
  · rintro ⟨written, rfl, ends⟩
    exact digits_of_row digits rest written ends

theorem drop_mark_cases (text : List Char) : text = dropMark text ∨ text = 'v' :: dropMark text := by
  fun_cases dropMark text with
  | case1 rest => exact .inr rfl
  | case2 => exact .inl rfl

theorem drop_mark_row (digits rest : List Char) (written : IsRow digits) : dropMark (digits ++ rest) = digits ++ rest := by
  obtain ⟨c, others, rfl⟩ := List.exists_cons_of_ne_nil written.filled
  have shown := Text.digit_of_table (fun d => d != 'v') (by decide +kernel) c (written.row c List.mem_cons_self)
  refine dropMark.eq_2 _ fun after marked => ?_
  simp [(List.cons.inj marked).1] at shown

-- A text that begins with a version, with its mark or without it. No more digits follow the last part.
structure Spells (text : String) (version : Version) : Prop where
  written : version.Written
  spelled : ∃ mark rest, (mark = [] ∨ mark = ['v']) ∧ (∀ c ∈ rest.head?, Text.isDigit c = false) ∧
    text.toList = mark ++ version.major ++ '.' :: version.minor ++ '.' :: version.patch ++ rest

theorem read_iff (text : String) (version : Version) : read? text = some version ↔ Spells text version := by
  constructor
  · intro read
    simp only [read?, Option.bind_eq_bind, Option.bind_eq_some_iff, Prod.exists, digits_iff, Text.drop_start_some_iff,
      Option.pure_def, Option.some.injEq] at read
    obtain ⟨major, _, ⟨majorRow, body, -⟩, _, rfl, minor, _, ⟨minorRow, rfl, -⟩, _, rfl, patch, rest,
      ⟨patchRow, rfl, ends⟩, rfl⟩ := read
    refine ⟨⟨majorRow, minorRow, patchRow⟩, ?_⟩
    rcases drop_mark_cases text.toList with bare | marked
    · exact ⟨[], rest, .inl rfl, ends, by rw [bare, body]; simp⟩
    · exact ⟨['v'], rest, .inr rfl, ends, by rw [marked, body]; simp⟩
  · rintro ⟨⟨majorRow, minorRow, patchRow⟩, mark, rest, marked, ends, spelled⟩
    have dot : Text.isDigit '.' = false := by decide
    have body : dropMark text.toList = version.major ++ '.' :: (version.minor ++ '.' :: (version.patch ++ rest)) := by
      rcases marked with rfl | rfl
      · rw [spelled]
        simpa using drop_mark_row version.major _ majorRow
      · rw [spelled]
        simp [dropMark]
    have major := digits_of_row version.major ('.' :: (version.minor ++ '.' :: (version.patch ++ rest))) majorRow (by simp [dot])
    have minor := digits_of_row version.minor ('.' :: (version.patch ++ rest)) minorRow (by simp [dot])
    have patch := digits_of_row version.patch rest patchRow ends
    simp [read?, body, major, minor, patch, Text.dropStart?]

theorem to_list_to_string (version : Version) :
    (toString version).toList = 'v' :: (version.major ++ '.' :: (version.minor ++ '.' :: version.patch)) := by
  change (Version.toString version).toList = _
  simp [Version.toString]

theorem spells_to_string (version : Version) (written : version.Written) : Spells (toString version) version :=
  ⟨written, ['v'], [], .inr rfl, nofun, by rw [to_list_to_string]; simp⟩

theorem read_to_string (version : Version) (written : version.Written) : read? (toString version) = some version :=
  (read_iff _ _).mpr (version.spells_to_string written)

theorem next_eq (digits : List Char) (written : IsRow digits) :
    next digits =
      if Text.maxDigits < digits.length then .error (.number (.tooLong digits.length))
      else if Text.maxDigits < (Nat.toDigits 10 (digitsValue digits + 1)).length then .error .tooLong
      else .ok (Nat.toDigits 10 (digitsValue digits + 1)) := by
  have counted : (toString ((digitsValue digits : Int) + 1)).toList = Nat.toDigits 10 (digitsValue digits + 1) := by
    change (toString (digitsValue digits + 1)).toList = _
    rw [Nat.toString_eq_ofList_toDigits, String.toList_ofList]
  rw [next, Text.read_integer_row digits written]
  by_cases long : Text.maxDigits < digits.length
  · rw [if_pos long, if_pos long]
  · rw [if_neg long, if_neg long]
    simp only [counted]

theorem next_ok_iff (digits : List Char) (written : IsRow digits) :
    (∃ raised, next digits = .ok raised) ↔
      digits.length ≤ Text.maxDigits ∧ digitsValue digits + 1 < 10 ^ Text.maxDigits := by
  have room := Nat.length_toDigits_le_iff (n := digitsValue digits + 1) (by decide : 1 < 10) (by decide : 0 < Text.maxDigits)
  rw [next_eq digits written, ← room]
  split
  · next long => simp [Nat.not_le.mpr long]
  · next short =>
      split
      · next long => simp [Nat.not_le.mpr long]
      · next fits => simp [Nat.not_lt.mp short, Nat.not_lt.mp fits]

theorem next_raised (digits raised : List Char) (written : IsRow digits) (counts : next digits = .ok raised) :
    IsRow raised ∧ digitsValue raised = digitsValue digits + 1 := by
  rw [next_eq digits written] at counts
  split at counts
  · cases counts
  · split at counts
    · cases counts
    · cases counts
      exact ⟨Text.written_row _, Text.digits_value_written _⟩

theorem bump_eq (version : Version) (kind : ReleaseKind) :
    version.bump kind = (next (version.part kind)).map (version.withPart · kind) := by
  cases kind with
  | patch =>
      rw [bump, part]
      cases next version.patch <;> rfl
  | minor =>
      rw [bump, part]
      cases next version.minor <;> rfl
  | major =>
      rw [bump, part]
      cases next version.major <;> rfl

theorem bump_text_eq (text name : String) (version : Version) (kind : ReleaseKind) (spelled : Spells text version)
    (known : ReleaseKind.ofName? name = some kind) :
    bumpText text name = (next (version.part kind)).map fun digits => toString (version.withPart digits kind) := by
  simp only [bumpText, known, (read_iff text version).mpr spelled, bump_eq]
  cases next (version.part kind) <;> rfl

theorem part_row (version : Version) (kind : ReleaseKind) (written : version.Written) : IsRow (version.part kind) := by
  cases kind with
  | patch => exact written.patch
  | minor => exact written.minor
  | major => exact written.major

theorem with_part_written (version : Version) (kind : ReleaseKind) (digits : List Char) (written : version.Written)
    (row : IsRow digits) : (version.withPart digits kind).Written := by
  have single : IsRow ['0'] := by decide
  cases kind with
  | patch => exact ⟨written.major, written.minor, row⟩
  | minor => exact ⟨written.major, row, single⟩
  | major => exact ⟨row, single, single⟩

-- Nothing lies between a version and its release but versions that differ from it below the raised part.
theorem lt_with_part_iff (version other : Version) (kind : ReleaseKind) (digits : List Char)
    (raised : digitsValue digits = digitsValue (version.part kind) + 1) :
    other.numbers < (version.withPart digits kind).numbers ↔ other.kept kind ≤ version.kept kind := by
  have zero : digitsValue ['0'] = 0 := by decide
  cases kind with
  | patch =>
      simp only [part] at raised
      simp only [numbers, kept, withPart, Prod.Lex.toLex_lt_toLex, Prod.Lex.toLex_le_toLex, raised]
      omega
  | minor =>
      simp only [part] at raised
      simp only [numbers, kept, withPart, Prod.Lex.toLex_lt_toLex, Prod.Lex.toLex_le_toLex, raised, zero]
      omega
  | major =>
      simp only [part] at raised
      simp only [numbers, kept, withPart, Prod.Lex.toLex_lt_toLex, Prod.Lex.toLex_le_toLex, raised, zero, true_and]
      omega

structure SameWidths (version other : Version) : Prop where
  major : version.major.length = other.major.length
  minor : version.minor.length = other.minor.length
  patch : version.patch.length = other.patch.length

structure Ascii (version : Version) : Prop where
  major : ∀ c ∈ version.major, Text.isAsciiDigit c = true
  minor : ∀ c ∈ version.minor, Text.isAsciiDigit c = true
  patch : ∀ c ∈ version.patch, Text.isAsciiDigit c = true

theorem to_string_lt_iff (version other : Version) (plain : version.Ascii) (otherPlain : other.Ascii)
    (same : version.SameWidths other) : toString version < toString other ↔ version.numbers < other.numbers := by
  have major := Text.digits_lt_iff _ _ same.major plain.major otherPlain.major
  have majorEq := Text.digits_eq_iff _ _ same.major plain.major otherPlain.major
  have minor := Text.digits_lt_iff _ _ same.minor plain.minor otherPlain.minor
  have minorEq := Text.digits_eq_iff _ _ same.minor plain.minor otherPlain.minor
  have patch := Text.digits_lt_iff _ _ same.patch plain.patch otherPlain.patch
  rw [String.lt_iff, to_list_to_string, to_list_to_string, List.cons_lt_cons_iff,
    Text.append_lt_append_iff _ _ _ _ same.major, List.cons_lt_cons_iff, Text.append_lt_append_iff _ _ _ _ same.minor,
    List.cons_lt_cons_iff, major, majorEq, minor, minorEq, patch]
  simp [numbers, Prod.Lex.toLex_lt_toLex]

theorem kept_le (version other : Version) (kind : ReleaseKind) (less : version.numbers ≤ other.numbers) :
    version.kept kind ≤ other.kept kind := by
  simp only [numbers, Prod.Lex.toLex_le_toLex] at less
  cases kind with
  | patch => simpa only [kept, numbers, Prod.Lex.toLex_le_toLex] using less
  | minor =>
      simp only [kept, Prod.Lex.toLex_le_toLex]
      omega
  | major =>
      simp only [kept, Prod.Lex.toLex_le_toLex, true_and]
      omega

end MarkupLint.Version
