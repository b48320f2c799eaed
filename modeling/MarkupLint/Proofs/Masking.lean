import MarkupLint.Masking
import MarkupLint.Text.Utf8
import MarkupLint.Proofs.Text.Lines
import MarkupLint.Proofs.Text.Search

set_option autoImplicit false

namespace MarkupLint.Text

variable (piece substitute : List Char)

-- With a substitute that is related to the piece, every character of the text is related to the one in its place.
theorem replace_from_related (related : Char → Char → Prop) (same : ∀ c, related c c)
    (alike : List.Forall₂ related piece substitute) (filled : piece ≠ []) (skip : Nat) (text : List Char) :
    List.Forall₂ related (text.drop skip) (replaceFrom piece substitute skip text) := by
  fun_induction replaceFrom piece substitute skip text with
  | case1 skip => simp
  | case2 skip c rest ih => simpa using ih
  | case3 c rest found ih =>
      obtain ⟨after, split⟩ := (starts_with_iff piece (c :: rest)).mp found
      obtain ⟨p, others, rfl⟩ := List.exists_cons_of_ne_nil filled
      obtain ⟨rfl, rfl⟩ := List.cons.inj split
      have behind : List.Forall₂ related after
          (replaceFrom (p :: others) substitute ((p :: others).length - 1) (others ++ after)) := by
        simpa using ih
      exact List.rel_append alike behind
  | case4 c rest absent ih => exact .cons (same c) ih

theorem prefix_append_iff (separator : Char) (apart : separator ∉ piece) (before after : List Char) :
    piece <+: before ++ separator :: after ↔ piece <+: before := by
  refine ⟨fun found => ?_, fun found => found.trans (List.prefix_append _ _)⟩
  by_cases short : piece.length ≤ before.length
  · exact List.prefix_of_prefix_length_le found (List.prefix_append _ _) short
  · have inner : before ++ [separator] <+: piece := by
      refine List.prefix_of_prefix_length_le ?_ found (by simp; omega)
      exact ⟨after, by simp⟩
    exact absurd (inner.subset (by simp)) apart

theorem replace_from_cut (separator : Char) (apart : separator ∉ piece) (filled : piece ≠ []) (skip : Nat)
    (before after : List Char) (inside : skip ≤ before.length) :
    replaceFrom piece substitute skip (before ++ separator :: after)
      = replaceFrom piece substitute skip before ++ separator :: replaceFrom piece substitute 0 after := by
  induction before generalizing skip with
  | nil =>
      have notHere : ¬ startsWith piece (separator :: after) = true := by
        rw [starts_with_iff]
        intro found
        have nothing := (prefix_append_iff piece separator apart [] after).mp found
        exact filled (List.prefix_nil.mp nothing)
      obtain rfl : skip = 0 := Nat.le_zero.mp inside
      simp [replaceFrom, notHere]
  | cons c rest ih =>
      cases skip with
      | succ skip => exact ih skip (Nat.le_of_succ_le_succ inside)
      | zero =>
          have same : startsWith piece (c :: (rest ++ separator :: after)) = startsWith piece (c :: rest) := by
            rw [Bool.eq_iff_iff, starts_with_iff, starts_with_iff, ← List.cons_append]
            exact prefix_append_iff piece separator apart (c :: rest) after
          rw [List.cons_append, replaceFrom, replaceFrom, same]
          by_cases found : startsWith piece (c :: rest) = true
          · have bound := ((starts_with_iff piece (c :: rest)).mp found).length_le
            rw [if_pos found, if_pos found, ih _ (by simp at bound; omega), List.append_assoc]
          · rw [if_neg found, if_neg found, ih 0 (Nat.zero_le _), List.cons_append]

theorem drop_byte_order_mark_absent (text : List Char) (absent : text.head? ≠ some '\uFEFF') :
    dropByteOrderMark text = text := by
  fun_cases dropByteOrderMark text with
  | case1 rest => exact absurd rfl absent
  | case2 => rfl

theorem drop_byte_order_mark_append (text back : List Char) (below : StartsBelow back) :
    dropByteOrderMark (text ++ back) = dropByteOrderMark text ++ back := by
  cases text with
  | nil =>
      rcases below with rfl | ⟨after, rfl⟩ <;> rfl
  | cons c rest =>
      by_cases mark : c = '\uFEFF'
      · subst mark
        rfl
      · rw [drop_byte_order_mark_absent _ (by simpa using mark),
          drop_byte_order_mark_absent _ (by simpa using mark)]

end MarkupLint.Text

namespace MarkupLint.Masking

def Masks (before after : Char) : Prop := after = before ∨ before = '|' ∧ after = 'x'

instance (before after : Char) : Decidable (Masks before after) := inferInstanceAs (Decidable (_ ∨ _))

theorem masks_keeps : Text.KeepsBlanks Masks where
  blank _ _ := .inl rfl
  filled := by
    rintro c d (same | ⟨rfl, rfl⟩)
    · exact .inl same
    · exact .inr (by decide)

theorem masked_trans (first second third : List Char) (one : List.Forall₂ Masks first second)
    (two : List.Forall₂ Masks second third) : List.Forall₂ Masks first third := by
  induction one generalizing third with
  | nil =>
      cases two
      exact .nil
  | cons pair _ ih =>
      obtain ⟨c, rest, next, others, rfl⟩ := List.forall₂_cons_left_iff.mp two
      refine .cons ?_ (ih rest others)
      rcases next with rfl | ⟨rfl, rfl⟩
      · exact pair
      · exact .inr ⟨pair.elim Eq.symm fun masked => absurd masked.2 (by decide), rfl⟩

theorem reference_masks (name : List Char) : List.Forall₂ Masks (reference name) (masked name) := by
  have own : List.Forall₂ Masks name name := List.forall₂_same.mpr fun _ _ => .inl rfl
  exact .cons (.inr ⟨rfl, rfl⟩) (List.rel_append own (.cons (.inr ⟨rfl, rfl⟩) .nil))

theorem replace_from_masks (name : List Char) (skip : Nat) (text : List Char) :
    List.Forall₂ Masks (text.drop skip) (Text.replaceFrom (reference name) (masked name) skip text) :=
  Text.replace_from_related _ _ Masks (fun _ => .inl rfl) (reference_masks name) (by simp [reference]) skip text

theorem mask_name_masks (text : List Char) (name : String) : List.Forall₂ Masks text (maskName text name) :=
  replace_from_masks name.toList 0 text

theorem mask_names_masks (names : List String) (text : List Char) :
    List.Forall₂ Masks text (names.foldl maskName text) := by
  induction names generalizing text with
  | nil => exact List.forall₂_same.mpr fun _ _ => .inl rfl
  | cons name names ih => exact masked_trans _ _ _ (mask_name_masks text name) (ih _)

def withoutBars (c : Char) : Char := if c = '|' then 'x' else c

theorem masked_look (before after : List Char) (masked : List.Forall₂ Masks before after) :
    after.map withoutBars = before.map withoutBars := by
  induction masked with
  | nil => rfl
  | cons pair _ ih =>
      rw [List.map_cons, List.map_cons, ih]
      rcases pair with rfl | ⟨rfl, rfl⟩ <;> rfl

theorem masked_lines_look (before after : List (List Char)) (masked : List.Forall₂ (List.Forall₂ Masks) before after) :
    after.map (·.map withoutBars) = before.map (·.map withoutBars) := by
  induction masked with
  | nil => rfl
  | cons line _ ih => rw [List.map_cons, List.map_cons, ih, masked_look _ _ line]

theorem mask_names_look (names : List String) (text : List Char) :
    (names.foldl maskName text).map withoutBars = text.map withoutBars :=
  masked_look _ _ (mask_names_masks names text)

@[simp]
theorem mask_names_nil (names : List String) : names.foldl maskName [] = [] := by
  induction names with
  | nil => rfl
  | cons name names ih => exact ih

section Plain

variable (names : List String) (plain : ∀ name ∈ names, '\n' ∉ name.toList)
include plain

theorem mask_names_cut (before after : List Char) :
    names.foldl maskName (before ++ '\n' :: after)
      = names.foldl maskName before ++ '\n' :: names.foldl maskName after := by
  induction names generalizing before after with
  | nil => rfl
  | cons name names ih =>
      have first : maskName (before ++ '\n' :: after) name = maskName before name ++ '\n' :: maskName after name :=
        Text.replace_from_cut _ _ '\n' (by simp [reference, plain name (.head _)]) (by simp [reference]) 0 before after
          (Nat.zero_le _)
      rw [List.foldl_cons, first, ih fun other member => plain other (.tail _ member)]
      rfl

@[simp]
theorem mask_names_feed (after : List Char) :
    names.foldl maskName ('\n' :: after) = '\n' :: names.foldl maskName after := by
  have cut := mask_names_cut names plain [] after
  rwa [mask_names_nil] at cut

theorem mask_names_end (before : List Char) :
    names.foldl maskName (before ++ ['\n']) = names.foldl maskName before ++ ['\n'] := by
  rw [mask_names_cut names plain, mask_names_nil]

theorem mask_names_ends_line (lead : List Char) (ends : Text.EndsLine lead) :
    Text.EndsLine (names.foldl maskName lead) := by
  rcases ends with rfl | ⟨before, rfl⟩
  · exact .inl (mask_names_nil names)
  · exact .inr ⟨_, mask_names_end names plain before⟩

theorem mask_names_starts_below (back : List Char) (below : Text.StartsBelow back) :
    Text.StartsBelow (names.foldl maskName back) := by
  rcases below with rfl | ⟨after, rfl⟩
  · exact .inl (mask_names_nil names)
  · exact .inr ⟨_, mask_names_feed names plain after⟩

theorem mask_names_between (lead own back : List Char) (ends : Text.EndsLine lead) (below : Text.StartsBelow back) :
    names.foldl maskName (lead ++ (own ++ back))
      = names.foldl maskName lead ++ (names.foldl maskName own ++ names.foldl maskName back) := by
  have front : ∀ rest, names.foldl maskName (lead ++ rest) = names.foldl maskName lead ++ names.foldl maskName rest := by
    intro rest
    rcases ends with rfl | ⟨before, rfl⟩
    · rw [mask_names_nil, List.nil_append, List.nil_append]
    · rw [List.append_assoc, List.singleton_append, mask_names_cut names plain, mask_names_end names plain,
        List.append_assoc, List.singleton_append]
  rw [front]
  rcases below with rfl | ⟨after, rfl⟩
  · rw [mask_names_nil, List.append_nil, List.append_nil]
  · rw [mask_names_cut names plain, mask_names_feed names plain]

end Plain

theorem mask_names_lines (lines : List Char → List (List Char)) (counts : Text.CountsLines lines) (names : List String)
    (text : List Char) :
    (lines (names.foldl maskName text)).map (·.map withoutBars) = (lines text).map (·.map withoutBars) :=
  masked_lines_look _ _ (counts.related Masks masks_keeps text _ (mask_names_masks names text))

theorem mask_names_cons (names : List String) (c : Char) (noBar : c ≠ '|') (text : List Char) :
    names.foldl maskName (c :: text) = c :: names.foldl maskName text := by
  induction names generalizing text with
  | nil => rfl
  | cons name names ih =>
      have notHere : ¬ Text.startsWith (reference name.toList) (c :: text) = true := by
        rw [Text.starts_with_iff, reference, List.cons_append, List.cons_prefix_cons]
        exact fun found => noBar found.1.symm
      have here : maskName (c :: text) name = c :: maskName text name := by
        rw [maskName, Text.replaceAll, Text.replaceFrom, if_neg notHere]
        rfl
      rw [List.foldl_cons, here, ih, List.foldl_cons]

theorem mask_names_mark (names : List String) (text : List Char) :
    Text.dropByteOrderMark (names.foldl maskName text) = names.foldl maskName (Text.dropByteOrderMark text) := by
  by_cases marked : text.head? = some '\uFEFF'
  · obtain ⟨rest, rfl⟩ := List.head?_eq_some_iff.mp marked
    rw [mask_names_cons names _ (by decide)]
    rfl
  · have kept : (names.foldl maskName text).head? ≠ some '\uFEFF' := by
      intro found
      have look := congrArg List.head? (mask_names_look names text)
      rw [List.head?_map, List.head?_map, found, Option.map_some] at look
      obtain ⟨c, first, same⟩ := Option.map_eq_some_iff.mp look.symm
      have isMark : c = '\uFEFF' := by
        by_cases bar : c = '|'
        · subst bar
          exact absurd same (by decide)
        · simpa [withoutBars, bar] using same
      exact marked (isMark ▸ first)
    rw [Text.drop_byte_order_mark_absent _ marked, Text.drop_byte_order_mark_absent _ kept]

end MarkupLint.Masking
