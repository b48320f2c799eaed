import MarkupLint.Proofs.Text.Blank
import MarkupLint.Text.Lines

set_option autoImplicit false

namespace MarkupLint.Text

theorem split_on_char_ne_nil (separator : Char) (text : List Char) : splitOnChar separator text ≠ [] := by
  cases text with
  | nil => simp [splitOnChar]
  | cons c rest =>
      rw [splitOnChar]
      split
      · simp
      · cases splitOnChar separator rest <;> simp [onFirstLine]

theorem split_on_char_eq (separator : Char) (text : List Char) : splitOnChar separator text = text.splitOn separator := by
  induction text with
  | nil => simp [splitOnChar]
  | cons c rest ih =>
      obtain ⟨piece, others, split⟩ := List.exists_cons_of_ne_nil (split_on_char_ne_nil separator rest)
      rw [splitOnChar, ih, List.splitOn_cons_eq_if_modifyHead]
      rw [ih] at split
      simp [split, onFirstLine]

theorem split_on_char_absent (separator : Char) (text piece : List Char)
    (member : piece ∈ splitOnChar separator text) : separator ∉ piece := by
  induction text generalizing piece with
  | nil =>
      rw [splitOnChar, List.mem_singleton] at member
      simp [member]
  | cons c rest ih =>
      rw [splitOnChar] at member
      split at member
      · rcases List.mem_cons.mp member with rfl | later
        · exact List.not_mem_nil
        · exact ih piece later
      · next different =>
          obtain ⟨first, others, split⟩ := List.exists_cons_of_ne_nil (split_on_char_ne_nil separator rest)
          rw [split] at member ih
          rcases List.mem_cons.mp member with rfl | later
          · rw [List.mem_cons, not_or]
            exact ⟨Ne.symm different, ih first List.mem_cons_self⟩
          · exact ih piece (List.mem_cons_of_mem first later)

theorem split_on_char_mem (separator : Char) (text piece : List Char) (member : piece ∈ splitOnChar separator text)
    (c : Char) (held : c ∈ piece) : c ∈ text := by
  induction text generalizing piece with
  | nil =>
      rw [splitOnChar, List.mem_singleton] at member
      simp [member] at held
  | cons d rest ih =>
      rw [splitOnChar] at member
      split at member
      · rcases List.mem_cons.mp member with rfl | later
        · cases held
        · exact List.mem_cons_of_mem d (ih piece later held)
      · obtain ⟨first, others, split⟩ := List.exists_cons_of_ne_nil (split_on_char_ne_nil separator rest)
        rw [split] at member ih
        rcases List.mem_cons.mp member with rfl | later
        · rcases List.mem_cons.mp held with rfl | behind
          · exact List.mem_cons_self
          · exact List.mem_cons_of_mem d (ih first List.mem_cons_self behind)
        · exact List.mem_cons_of_mem d (ih piece (List.mem_cons_of_mem first later) held)

theorem split_on_char_whole (separator : Char) (piece : List Char) (absent : separator ∉ piece) :
    splitOnChar separator piece = [piece] := by
  induction piece with
  | nil => rfl
  | cons c piece ih =>
      rw [List.mem_cons, not_or] at absent
      rw [splitOnChar, if_neg (Ne.symm absent.1), ih absent.2, onFirstLine]

theorem split_on_char_cut (separator : Char) (piece rest : List Char) (absent : separator ∉ piece) :
    splitOnChar separator (piece ++ separator :: rest) = piece :: splitOnChar separator rest := by
  induction piece with
  | nil => simp [splitOnChar]
  | cons c piece ih =>
      rw [List.mem_cons, not_or] at absent
      rw [List.cons_append, splitOnChar, if_neg (Ne.symm absent.1), ih absent.2, onFirstLine]

theorem split_on_char_in_front (separator : Char) (front text : List Char) (absent : separator ∉ front) :
    ∃ first rest, splitOnChar separator text = first :: rest ∧
      splitOnChar separator (front ++ text) = (front ++ first) :: rest := by
  obtain ⟨first, rest, split⟩ := List.exists_cons_of_ne_nil (split_on_char_ne_nil separator text)
  refine ⟨first, rest, split, ?_⟩
  induction front with
  | nil => exact split
  | cons c front ih =>
      rw [List.mem_cons, not_or] at absent
      rw [List.cons_append, splitOnChar, if_neg (Ne.symm absent.1), ih absent.2, onFirstLine, List.cons_append]

theorem split_on_char_behind (separator : Char) (text back : List Char) (absent : separator ∉ back) :
    ∃ before last, splitOnChar separator text = before ++ [last] ∧
      splitOnChar separator (text ++ back) = before ++ [last ++ back] := by
  induction text with
  | nil => exact ⟨[], [], rfl, split_on_char_whole separator back absent⟩
  | cons c rest ih =>
      obtain ⟨before, last, split, behind⟩ := ih
      rw [List.cons_append, splitOnChar, splitOnChar, split, behind]
      by_cases cuts : c = separator
      · rw [if_pos cuts, if_pos cuts]
        exact ⟨[] :: before, last, rfl, rfl⟩
      · rw [if_neg cuts, if_neg cuts]
        cases before with
        | nil => exact ⟨[], c :: last, rfl, rfl⟩
        | cons first before => exact ⟨(c :: first) :: before, last, rfl, rfl⟩

theorem split_on_char_trim (separator : Char) (text : List Char) (filled : isBlank separator = false) :
    (splitOnChar separator (trim text)).map trim = (splitOnChar separator text).map trim := by
  obtain ⟨⟨left, right, around, before, behind⟩, -, -⟩ := stripped_trim text
  have absent : ∀ blanks : List Char, (∀ c ∈ blanks, isBlank c = true) → separator ∉ blanks := by
    intro blanks blank member
    simp [blank separator member] at filled
  obtain ⟨first, rest, own, inFront⟩ := split_on_char_in_front separator left (trim text) (absent left before)
  obtain ⟨start, last, whole, atEnd⟩ := split_on_char_behind separator (left ++ trim text) right (absent right behind)
  have firstPiece : trim (left ++ first) = trim first := by simpa using trim_around left first [] before (by simp)
  have lastPiece : trim (last ++ right) = trim last := by simpa using trim_around [] last right (by simp) behind
  calc (splitOnChar separator (trim text)).map trim
      = (splitOnChar separator (left ++ trim text)).map trim := by
        rw [own, inFront, List.map_cons, List.map_cons, firstPiece]
    _ = (splitOnChar separator (left ++ trim text ++ right)).map trim := by
        rw [whole, atEnd, List.map_append, List.map_append, List.map_singleton, List.map_singleton, lastPiece]
    _ = (splitOnChar separator text).map trim := by rw [← around]

structure DividedBy (separator : Char) (text : List Char) (pieces : List (List Char)) : Prop where
  joined : [separator].intercalate pieces = text
  filled : pieces ≠ []
  apart : ∀ piece ∈ pieces, separator ∉ piece

theorem split_on_char_iff (separator : Char) (text : List Char) (pieces : List (List Char)) :
    splitOnChar separator text = pieces ↔ DividedBy separator text pieces := by
  constructor
  · rintro rfl
    refine ⟨?_, split_on_char_ne_nil separator text, split_on_char_absent separator text⟩
    rw [split_on_char_eq, List.intercalate_splitOn]
  · rintro ⟨rfl, filled, apart⟩
    rw [split_on_char_eq, List.splitOn_intercalate separator apart filled]

theorem split_on_char_joined (separator : Char) (mark : String) (spelled : mark.toList = [separator])
    (pieces : List String) (filled : pieces ≠ []) (apart : ∀ piece ∈ pieces, separator ∉ piece.toList) :
    splitOnChar separator (String.intercalate mark pieces).toList = pieces.map String.toList := by
  rw [split_on_char_iff]
  refine ⟨?_, by simpa using filled, List.forall_mem_map.mpr apart⟩
  rw [String.toList_intercalate, spelled]

end MarkupLint.Text
