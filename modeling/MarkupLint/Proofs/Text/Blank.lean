import MarkupLint.Text.Blank
import Mathlib.Data.List.DropRight

set_option autoImplicit false

namespace MarkupLint.Text

@[simp]
theorem trim_left_trim (text : List Char) : trimLeft (trim text) = trim text := by
  have within : trim text <+: trimLeft text := List.rdropWhile_prefix isBlank (trimLeft text)
  refine List.dropWhile_eq_self_iff.mpr fun filled => ?_
  have longer := Nat.lt_of_lt_of_le filled within.length_le
  rw [within.getElem filled]
  exact List.dropWhile_get_zero_not isBlank text longer

@[simp]
theorem trim_trim (text : List Char) : trim (trim text) = trim text := by
  rw [trim, trim_left_trim]
  exact List.rdropWhile_idempotent isBlank (trimLeft text)

@[simp]
theorem strip_strip (text : String) : strip (strip text) = strip text := by
  rw [strip, strip, String.toList_ofList, trim_trim]

structure Stripped (text inner : List Char) : Prop where
  around : ∃ left right, text = left ++ inner ++ right ∧ (∀ c ∈ left, isBlank c = true) ∧ ∀ c ∈ right, isBlank c = true
  head : ∀ c, inner.head? = some c → isBlank c = false
  last : ∀ c, inner.getLast? = some c → isBlank c = false

theorem stripped_trim (text : List Char) : Stripped text (trim text) where
  around := by
    refine ⟨text.takeWhile isBlank, (trimLeft text).rtakeWhile isBlank, ?_, ?_, ?_⟩
    · have back : trim text ++ (trimLeft text).rtakeWhile isBlank = trimLeft text :=
        List.rdropWhile_append_rtakeWhile
      rw [List.append_assoc, back, trimLeft, List.takeWhile_append_dropWhile]
    · exact fun c member => List.mem_takeWhile_imp member
    · exact fun c member => List.mem_rtakeWhile_imp member
  head := by
    intro c first
    have kept := trim_left_trim text
    cases trimmed : trim text with
    | nil => simp [trimmed] at first
    | cons d rest =>
        rw [trimmed, trimLeft, List.dropWhile_eq_self_iff] at kept
        rw [trimmed, List.head?_cons, Option.some.injEq] at first
        simpa [first] using kept (by simp)
  last := by
    intro c final
    have filled : trim text ≠ [] := by
      intro empty
      simp [empty] at final
    have kept := List.rdropWhile_last_not isBlank (trimLeft text) filled
    rw [List.getLast?_eq_some_getLast filled, Option.some.injEq] at final
    exact final ▸ Bool.eq_false_iff.mpr kept

theorem trim_eq_iff (text inner : List Char) : trim text = inner ↔ Stripped text inner := by
  refine ⟨fun same => same ▸ stripped_trim text, ?_⟩
  rintro ⟨⟨left, right, rfl, before, behind⟩, head, last⟩
  have front : trimLeft (left ++ inner ++ right) = trimLeft (inner ++ right) := by
    rw [List.append_assoc, trimLeft, List.dropWhile_append_of_pos before, trimLeft]
  rw [trim, front]
  cases inner with
  | nil =>
      have nothing : trimLeft right = [] := List.dropWhile_eq_nil_iff.mpr behind
      rw [List.nil_append, nothing]
      rfl
  | cons c rest =>
      have own : trimLeft (c :: rest ++ right) = c :: rest ++ right := by
        rw [List.cons_append, trimLeft, List.dropWhile_cons_of_neg (by simp [head c rfl])]
      have back : trimRight (c :: rest ++ right) = trimRight (c :: rest) := by
        rw [trimRight, List.reverse_append, List.dropWhile_append_of_pos (by simpa using behind), trimRight]
      rw [own, back]
      refine List.rdropWhile_eq_self_iff.mpr fun filled => ?_
      simp [last _ (List.getLast?_eq_some_getLast filled)]

theorem trim_around (left text right : List Char) (before : ∀ c ∈ left, isBlank c = true)
    (behind : ∀ c ∈ right, isBlank c = true) : trim (left ++ text ++ right) = trim text := by
  obtain ⟨⟨more, others, split, moreBlank, othersBlank⟩, head, last⟩ := stripped_trim text
  rw [trim_eq_iff]
  refine ⟨⟨left ++ more, others ++ right, ?_, ?_, ?_⟩, head, last⟩
  · conv_lhs => rw [split]
    simp only [List.append_assoc]
  · exact List.forall_mem_append.mpr ⟨before, moreBlank⟩
  · exact List.forall_mem_append.mpr ⟨othersBlank, behind⟩

@[simp]
theorem trim_eq_nil_iff (text : List Char) : trim text = [] ↔ allBlank text = true := by
  rw [trim_eq_iff, allBlank, List.all_eq_true]
  constructor
  · rintro ⟨⟨left, right, rfl, before, behind⟩, -, -⟩
    rw [List.append_nil]
    exact List.forall_mem_append.mpr ⟨before, behind⟩
  · intro blank
    exact ⟨⟨text, [], by simp, blank, by simp⟩, by simp, by simp⟩

end MarkupLint.Text
