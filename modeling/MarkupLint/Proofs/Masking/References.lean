import MarkupLint.Proofs.Masking

set_option autoImplicit false

namespace MarkupLint.Masking

-- What is found in a masked text and has no letter in it that bars are masked with has been there before.
theorem prefix_of_masked (piece before after : List Char) (masked : List.Forall₂ Masks before after)
    (plain : 'x' ∉ piece) (found : piece <+: after) : piece <+: before := by
  induction masked generalizing piece with
  | nil => exact found
  | cons pair _ ih =>
      cases piece with
      | nil => exact List.nil_prefix
      | cons p piece =>
          obtain ⟨rfl, behind⟩ := List.cons_prefix_cons.mp found
          rw [List.mem_cons, not_or] at plain
          rcases pair with rfl | ⟨-, rfl⟩
          · exact List.cons_prefix_cons.mpr ⟨rfl, ih piece plain.2 behind⟩
          · exact absurd rfl plain.1

theorem infix_of_masked (piece before after : List Char) (masked : List.Forall₂ Masks before after)
    (plain : 'x' ∉ piece) (found : piece <:+: after) : piece <:+: before := by
  obtain ⟨start, starts, ends⟩ := List.infix_iff_prefix_suffix.mp found
  rw [List.suffix_iff_eq_drop] at ends
  rw [ends] at starts
  have there := prefix_of_masked piece _ _ (List.forall₂_drop (after.length - start.length) masked) plain starts
  exact there.isInfix.trans (List.drop_suffix _ _).isInfix

theorem infix_behind (c : Char) (piece front text : List Char) (absent : c ∉ front)
    (found : c :: piece <:+: front ++ text) : c :: piece <:+: text := by
  induction front with
  | nil => exact found
  | cons d front ih =>
      rw [List.mem_cons, not_or] at absent
      rcases List.infix_cons_iff.mp found with starts | later
      · exact absurd (List.cons_prefix_cons.mp starts).1 absent.1
      · exact ih absent.2 later

theorem reference_plain (name : List Char) (plain : 'x' ∉ name) : 'x' ∉ reference name := by
  simp [reference, plain]

@[simp]
theorem masked_length (name : List Char) : (masked name).length = (reference name).length := by
  simp [masked, reference]

def Inside (name text : List Char) (position : Nat) : Prop :=
  ∃ start, reference name <+: text.drop start ∧ start ≤ position ∧ position < start + (reference name).length

theorem inside_behind (name front text : List Char) (position : Nat) (inside : Inside name text position) :
    Inside name (front ++ text) (front.length + position) := by
  obtain ⟨start, found, lower, upper⟩ := inside
  refine ⟨front.length + start, ?_, by omega, by omega⟩
  rwa [← List.drop_drop, List.drop_left]

theorem replace_from_changed (name : List Char) (skip : Nat) (text : List Char) (position : Nat)
    (changed : (Text.replaceFrom (reference name) (masked name) skip text)[position]? ≠ (text.drop skip)[position]?) :
    Inside name (text.drop skip) position := by
  fun_induction Text.replaceFrom (reference name) (masked name) skip text generalizing position with
  | case1 skip => simp at changed
  | case2 skip c rest ih => exact ih position changed
  | case3 c rest found ih =>
      obtain ⟨after, split⟩ := (Text.starts_with_iff (reference name) (c :: rest)).mp found
      by_cases here : position < (reference name).length
      · exact ⟨0, ⟨after, split⟩, Nat.zero_le _, by omega⟩
      · have behind : rest.drop ((reference name).length - 1) = after := by
          rw [reference, List.cons_append, List.cons_append, List.cons.injEq] at split
          rw [← split.2]
          simp [reference]
        obtain ⟨further, rfl⟩ := Nat.exists_eq_add_of_le (Nat.not_lt.mp here)
        have later := ih further fun same => changed (by
          rw [List.drop_zero, ← split, List.getElem?_append_right (by simp),
            List.getElem?_append_right (by simp), masked_length, Nat.add_sub_cancel_left, same, behind])
        rw [behind] at later
        rw [List.drop_zero, ← split]
        exact inside_behind name (reference name) after further later
  | case4 c rest absent ih =>
      cases position with
      | zero => simp at changed
      | succ position =>
          rw [Nat.add_comm]
          exact inside_behind name [c] rest position (ih position changed)

section Name

variable (name : List Char) (noBar : '|' ∉ name) (noLetter : 'x' ∉ name)
include noBar noLetter

-- An occurrence in the new text begins at a bar that is left. The text behind that bar is as it was, so that there
-- would have been an occurrence to replace.
theorem replace_from_absent (skip : Nat) (text : List Char) :
    ¬ reference name <:+: Text.replaceFrom (reference name) (masked name) skip text := by
  fun_induction Text.replaceFrom (reference name) (masked name) skip text with
  | case1 skip => simp [reference]
  | case2 skip c rest ih => exact ih
  | case3 c rest found ih =>
      intro occurs
      exact ih (infix_behind '|' _ (masked name) _ (by simp [masked, noBar]) occurs)
  | case4 c rest absent ih =>
      intro occurs
      rcases List.infix_cons_iff.mp occurs with starts | later
      · obtain ⟨rfl, behind⟩ := List.cons_prefix_cons.mp starts
        have there := prefix_of_masked _ _ _ (replace_from_masks name 0 rest) (by simp [noLetter]) behind
        exact absent ((Text.starts_with_iff _ _).mpr (List.cons_prefix_cons.mpr ⟨rfl, there⟩))
      · exact ih later

end Name

section Names

variable (names : List String) (plain : ∀ name ∈ names, '|' ∉ name.toList ∧ 'x' ∉ name.toList)
include plain

theorem mask_names_absent (text : List Char) :
    ∀ name ∈ names, ¬ reference name.toList <:+: names.foldl maskName text := by
  induction names generalizing text with
  | nil => simp
  | cons name names ih =>
      have own := plain name List.mem_cons_self
      refine List.forall_mem_cons.mpr ⟨fun occurs => ?_, ih (fun other member => plain other (.tail _ member)) _⟩
      have before := infix_of_masked _ _ _ (mask_names_masks names (maskName text name))
        (reference_plain _ own.2) occurs
      exact replace_from_absent name.toList own.1 own.2 0 text before

theorem mask_names_changed (text : List Char) (position : Nat)
    (changed : (names.foldl maskName text)[position]? ≠ text[position]?) :
    ∃ name ∈ names, Inside name.toList text position := by
  induction names generalizing text with
  | nil => exact absurd rfl changed
  | cons name names ih =>
      by_cases here : (maskName text name)[position]? = text[position]?
      · rw [← here] at changed
        obtain ⟨other, member, start, found, within⟩ := ih (fun other member => plain other (.tail _ member)) _ changed
        have there := prefix_of_masked _ _ _ (List.forall₂_drop start (mask_name_masks text name))
          (reference_plain _ (plain other (.tail _ member)).2) found
        exact ⟨other, .tail _ member, start, there, within⟩
      · exact ⟨name, List.mem_cons_self, replace_from_changed name.toList 0 text position here⟩

end Names

/-- Masking changes no place but bars, in the text and in its lines, however these are counted. With plain names it
masks bars of references to them only, and leaves no such reference. -/
theorem mask_all_in_place (names : List String) (source : String) :
    List.Forall₂ Masks source.toList (maskAll names source).toList ∧
    (∀ lines, lines = Text.splitLines ∨ lines = Markup.readableLines 8 →
      List.Forall₂ (List.Forall₂ Masks) (lines source.toList) (lines (maskAll names source).toList)) ∧
    ((∀ name ∈ names, '|' ∉ name.toList ∧ 'x' ∉ name.toList) →
      (∀ name ∈ names, ¬ reference name.toList <:+: (maskAll names source).toList) ∧
      ∀ position, (maskAll names source).toList[position]? ≠ source.toList[position]? →
        ∃ name ∈ names, Inside name.toList source.toList position) := by
  rw [maskAll, String.toList_ofList]
  have masked := mask_names_masks names source.toList
  refine ⟨masked, fun lines counted => ?_, fun plain => ?_⟩
  · rcases counted with rfl | rfl
    · exact Text.split_lines_related masks_keeps _ _ masked
    · exact Markup.readable_lines_related masks_keeps 8 _ _ masked
  · exact ⟨mask_names_absent names plain source.toList, mask_names_changed names plain source.toList⟩

/-- References that share a bar, an empty name, and a name that comes twice. -/
theorem mask_all_in_place_shared :
    (∀ name ∈ ["b", "", "b"], '|' ∉ name.toList ∧ 'x' ∉ name.toList) ∧
      maskAll ["b", "", "b"] "|a|b|b|\n|||" = "|axbxb|\nxx|" ∧
      ¬ reference "b".toList <:+: (maskAll ["b", "", "b"] "|a|b|b|\n|||").toList := by
  have plain : ∀ name ∈ ["b", "", "b"], '|' ∉ name.toList ∧ 'x' ∉ name.toList := by decide
  refine ⟨plain, by decide +kernel, ?_⟩
  exact ((mask_all_in_place ["b", "", "b"] "|a|b|b|\n|||").2.2 plain).1 "b" List.mem_cons_self

end MarkupLint.Masking
