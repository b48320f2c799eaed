import MarkupLint.Markup.Line
import Mathlib.Data.List.Forall2
import Mathlib.Data.List.Infix

set_option autoImplicit false

namespace MarkupLint.Text

theorem split_lines_cons (c : Char) (rest : List Char) (single : c = '\r' → rest.head? ≠ some '\n') :
    splitLines (c :: rest) = if isLineBreak c then [] :: splitLines rest else onFirstLine c (splitLines rest) := by
  rw [splitLines]
  intro after carriage feed
  exact single carriage (by rw [feed]; rfl)

@[simp]
theorem split_lines_feed (after : List Char) : splitLines ('\n' :: after) = [] :: splitLines after :=
  split_lines_cons '\n' after (by simp)

theorem split_lines_plain (c : Char) (rest : List Char) (plain : isLineBreak c = false) :
    splitLines (c :: rest) = onFirstLine c (splitLines rest) := by
  have notCarriage : c ≠ '\r' := by
    rintro rfl
    simp [isLineBreak] at plain
  rw [split_lines_cons c rest fun carriage => absurd carriage notCarriage, plain]
  rfl

-- A line break stays one break, whatever follows; only a line feed at once after a carriage return is part of it.
theorem split_lines_break (c : Char) (rest after : List Char) (lineBreak : isLineBreak c = true)
    (single : ∀ later, c = '\r' → rest = '\n' :: later → False) (apart : ¬ (c = '\r' ∧ rest = [])) :
    splitLines (c :: (rest ++ after)) = [] :: splitLines (rest ++ after) := by
  rw [split_lines_cons, if_pos lineBreak]
  intro carriage feed
  cases rest with
  | nil => exact apart ⟨carriage, rfl⟩
  | cons d later =>
      cases feed
      exact single later carriage rfl

theorem split_lines_ne_nil (text : List Char) (filled : text ≠ []) : splitLines text ≠ [] := by
  fun_cases splitLines text with
  | case1 => exact absurd rfl filled
  | case2 rest => simp
  | case3 c rest _ lineBreak => simp
  | case4 c rest _ plain => cases splitLines rest <;> simp [onFirstLine]

theorem on_first_line_append (c : Char) (lines others : List (List Char)) (filled : lines ≠ []) :
    onFirstLine c (lines ++ others) = onFirstLine c lines ++ others := by
  obtain ⟨line, rest, rfl⟩ := List.exists_cons_of_ne_nil filled
  rfl

theorem split_lines_append (before after : List Char) :
    splitLines (before ++ '\n' :: after) = splitLines (before ++ ['\n']) ++ splitLines after := by
  fun_induction splitLines before with
  | case1 => simp [splitLines]
  | case2 rest ih => simp [splitLines, ih]
  | case3 c rest single lineBreak ih =>
      by_cases joined : c = '\r' ∧ rest = []
      · obtain ⟨rfl, rfl⟩ := joined
        simp [splitLines]
      · rw [List.cons_append, split_lines_break c rest _ lineBreak single joined, ih, List.cons_append,
          split_lines_break c rest _ lineBreak single joined, List.cons_append]
  | case4 c rest single plain ih =>
      have noBreak : isLineBreak c = false := Bool.eq_false_iff.mpr plain
      rw [List.cons_append, split_lines_plain c _ noBreak, ih, List.cons_append, split_lines_plain c _ noBreak]
      exact on_first_line_append c _ _ (split_lines_ne_nil _ (by simp))

theorem split_lines_kept (before after : List Char) :
    splitLines before <+: splitLines (before ++ '\n' :: after) := by
  fun_induction splitLines before with
  | case1 => exact List.nil_prefix
  | case2 rest ih =>
      rw [List.cons_append, List.cons_append, splitLines]
      exact (List.prefix_cons_inj []).mpr ih
  | case3 c rest single lineBreak ih =>
      by_cases joined : c = '\r' ∧ rest = []
      · obtain ⟨rfl, rfl⟩ := joined
        simp [splitLines]
      · rw [List.cons_append, split_lines_break c rest _ lineBreak single joined]
        exact (List.prefix_cons_inj []).mpr ih
  | case4 c rest single plain ih =>
      rw [List.cons_append, split_lines_plain c _ (Bool.eq_false_iff.mpr plain)]
      cases rest with
      | nil => simp [splitLines, onFirstLine]
      | cons d rest =>
          obtain ⟨others, same⟩ := ih
          rw [← same, on_first_line_append c _ _ (split_lines_ne_nil _ (by simp))]
          exact List.prefix_append _ _

theorem any_line_break_iff (text : List Char) :
    text.any isLineBreak = false ↔ ∀ c ∈ text, isLineBreak c = false := by
  simp

theorem split_lines_whole (text : List Char) (filled : text ≠ []) (plain : ∀ c ∈ text, isLineBreak c = false) :
    splitLines text = [text] := by
  induction text with
  | nil => exact absurd rfl filled
  | cons c rest ih =>
      rw [List.forall_mem_cons] at plain
      rw [split_lines_plain c rest plain.1]
      by_cases ends : rest = []
      · rw [ends]
        rfl
      · rw [ih ends plain.2, onFirstLine]

theorem split_lines_mem_plain (text line : List Char) (member : line ∈ splitLines text) :
    ∀ c ∈ line, isLineBreak c = false := by
  fun_induction splitLines text generalizing line with
  | case1 => cases member
  | case2 rest ih =>
      rcases List.mem_cons.mp member with rfl | later
      · simp
      · exact ih line later
  | case3 c rest _ _ ih =>
      rcases List.mem_cons.mp member with rfl | later
      · simp
      · exact ih line later
  | case4 c rest _ plain ih =>
      have own : isLineBreak c = false := Bool.eq_false_iff.mpr plain
      cases split : splitLines rest with
      | nil =>
          rw [split, onFirstLine, List.mem_singleton] at member
          simpa [member] using own
      | cons first others =>
          rw [split, onFirstLine] at member
          rw [split] at ih
          rcases List.mem_cons.mp member with rfl | later
          · exact List.forall_mem_cons.mpr ⟨own, ih first List.mem_cons_self⟩
          · exact ih line (List.mem_cons_of_mem first later)

structure KeepsBlanks (related : Char → Char → Prop) : Prop where
  blank : ∀ c, isBlank c = true → related c c
  filled : ∀ c d, related c d → d = c ∨ isBlank c = false ∧ isBlank d = false

theorem plain_of_not_blank (c : Char) (filled : isBlank c = false) : isLineBreak c = false := by
  simp only [isLineBreak, isBlank, Bool.or_eq_false_iff, Bool.and_eq_false_iff, decide_eq_false_iff_not] at *
  omega

section Related

variable {related : Char → Char → Prop} (keeps : KeepsBlanks related)
include keeps

theorem is_blank_related (c d : Char) (pair : related c d) : isBlank d = isBlank c := by
  rcases keeps.filled c d pair with same | ⟨before, after⟩
  · rw [same]
  · rw [before, after]

theorem related_blank_iff (c d blank : Char) (pair : related c d) (isBlank : isBlank blank = true) :
    d = blank ↔ c = blank := by
  rcases keeps.filled c d pair with same | ⟨before, after⟩
  · rw [same]
  · constructor
    · rintro rfl
      simp [after] at isBlank
    · rintro rfl
      simp [before] at isBlank

theorem is_line_break_related (c d : Char) (pair : related c d) : isLineBreak d = isLineBreak c := by
  rcases keeps.filled c d pair with same | ⟨before, after⟩
  · rw [same]
  · rw [plain_of_not_blank c before, plain_of_not_blank d after]

omit keeps in
theorem on_first_line_related (c d : Char) (lines others : List (List Char)) (pair : related c d)
    (pairs : List.Forall₂ (List.Forall₂ related) lines others) :
    List.Forall₂ (List.Forall₂ related) (onFirstLine c lines) (onFirstLine d others) := by
  cases pairs with
  | nil => exact .cons (.cons pair .nil) .nil
  | cons first rest => exact .cons (.cons pair first) rest

theorem split_lines_related (text other : List Char) (pairs : List.Forall₂ related text other) :
    List.Forall₂ (List.Forall₂ related) (splitLines text) (splitLines other) := by
  fun_induction splitLines text generalizing other with
  | case1 =>
      cases pairs
      exact .nil
  | case2 rest ih =>
      obtain ⟨c, _, carriage, behind, rfl⟩ := List.forall₂_cons_left_iff.mp pairs
      obtain ⟨d, later, feed, further, rfl⟩ := List.forall₂_cons_left_iff.mp behind
      rw [(related_blank_iff keeps _ c '\r' carriage (by decide)).mpr rfl,
        (related_blank_iff keeps _ d '\n' feed (by decide)).mpr rfl]
      exact .cons .nil (ih later further)
  | case3 c rest single lineBreak ih =>
      obtain ⟨d, later, pair, behind, rfl⟩ := List.forall₂_cons_left_iff.mp pairs
      rw [split_lines_cons, if_pos ((is_line_break_related keeps c d pair).trans lineBreak)]
      · exact .cons .nil (ih later behind)
      · -- The break of the other text stands alone too.
        intro isCarriage isFeed
        obtain ⟨more, rfl⟩ := List.head?_eq_some_iff.mp isFeed
        obtain ⟨e, rest, feed, -, rfl⟩ := List.forall₂_cons_right_iff.mp behind
        exact single rest ((related_blank_iff keeps c d '\r' pair (by decide)).mp isCarriage)
          (congrArg (· :: rest) ((related_blank_iff keeps e '\n' '\n' feed (by decide)).mp rfl))
  | case4 c rest single plain ih =>
      obtain ⟨d, later, pair, behind, rfl⟩ := List.forall₂_cons_left_iff.mp pairs
      have noBreak := (is_line_break_related keeps c d pair).trans (Bool.eq_false_iff.mpr plain)
      rw [split_lines_plain d later noBreak]
      exact on_first_line_related c d _ _ pair (ih later behind)

theorem drop_blanks_related (text other : List Char) (pairs : List.Forall₂ related text other) :
    List.Forall₂ related (text.dropWhile isBlank) (other.dropWhile isBlank) := by
  induction pairs with
  | nil => exact .nil
  | cons pair pairs ih =>
      rename_i c d text other
      have same := is_blank_related keeps c d pair
      by_cases blank : isBlank c = true
      · rw [List.dropWhile_cons_of_pos blank, List.dropWhile_cons_of_pos (same.trans blank)]
        exact ih
      · rw [List.dropWhile_cons_of_neg blank, List.dropWhile_cons_of_neg (by rwa [same])]
        exact .cons pair pairs

theorem trim_right_related (text other : List Char) (pairs : List.Forall₂ related text other) :
    List.Forall₂ related (trimRight text) (trimRight other) := by
  rw [trimRight, trimRight, List.forall₂_reverse_iff]
  exact drop_blanks_related keeps _ _ (List.forall₂_reverse_iff.mpr pairs)

end Related

end MarkupLint.Text

namespace MarkupLint.Markup

open Text (splitLines isBlank KeepsBlanks)

theorem hard_of_not_blank (c : Char) (filled : isBlank c = false) : ¬ (c.toNat = 0x0b ∨ c.toNat = 0x0c) := by
  simp only [isBlank, Bool.or_eq_false_iff, Bool.and_eq_false_iff, decide_eq_false_iff_not] at filled
  omega

theorem soften_breaks_feed (before after : List Char) :
    softenBreaks (before ++ '\n' :: after) = softenBreaks before ++ '\n' :: softenBreaks after := by
  simp [softenBreaks]

section Related

variable {related : Char → Char → Prop} (keeps : KeepsBlanks related)
include keeps

theorem soften_breaks_related (text other : List Char) (pairs : List.Forall₂ related text other) :
    List.Forall₂ related (softenBreaks text) (softenBreaks other) := by
  rw [softenBreaks, softenBreaks, List.forall₂_map_left_iff, List.forall₂_map_right_iff]
  refine pairs.imp fun c d pair => ?_
  rcases keeps.filled c d pair with rfl | ⟨before, after⟩
  · by_cases soft : d.toNat = 0x0b ∨ d.toNat = 0x0c
    · simpa [soft] using keeps.blank ' ' (by decide)
    · simpa [soft] using pair
  · simpa [hard_of_not_blank c before, hard_of_not_blank d after] using pair

theorem expand_tabs_related (width column : Nat) (text other : List Char) (pairs : List.Forall₂ related text other) :
    List.Forall₂ related (expandTabs width column text) (expandTabs width column other) := by
  induction pairs generalizing column with
  | nil => exact .nil
  | cons pair pairs ih =>
      rename_i c d text other
      have tab : d = '\t' ↔ c = '\t' := Text.related_blank_iff keeps c d '\t' pair (by decide)
      by_cases isTab : c = '\t'
      · rw [expandTabs, expandTabs, if_pos isTab, if_pos (tab.mpr isTab)]
        split
        · exact ih column
        · refine List.rel_append (List.forall₂_same.mpr fun space member => ?_) (ih _)
          rw [(List.mem_replicate.mp member).2]
          exact keeps.blank ' ' (by decide)
      · rw [expandTabs, expandTabs, if_neg isTab, if_neg fun held => isTab (tab.mp held)]
        exact .cons pair (ih (column + 1))

theorem readable_lines_related (width : Nat) (text other : List Char) (pairs : List.Forall₂ related text other) :
    List.Forall₂ (List.Forall₂ related) (readableLines width text) (readableLines width other) := by
  rw [readableLines, readableLines, List.forall₂_map_left_iff, List.forall₂_map_right_iff]
  have lines := Text.split_lines_related keeps _ _ (soften_breaks_related keeps text other pairs)
  exact lines.imp fun line second same => Text.trim_right_related keeps _ _ (expand_tabs_related keeps width 0 _ _ same)

end Related

end MarkupLint.Markup

namespace MarkupLint.Text

structure CountsLines (lines : List Char → List (List Char)) : Prop where
  nil : lines [] = []
  filled : ∀ text, text ≠ [] → lines text ≠ []
  single : ∀ c, isBlank c = false → lines [c] = [[c]]
  append : ∀ before after, lines (before ++ '\n' :: after) = lines (before ++ ['\n']) ++ lines after
  kept : ∀ before after, lines before <+: lines (before ++ '\n' :: after)
  related : ∀ related, KeepsBlanks related → ∀ text other, List.Forall₂ related text other →
    List.Forall₂ (List.Forall₂ related) (lines text) (lines other)

theorem split_lines_counts : CountsLines splitLines where
  nil := rfl
  filled := split_lines_ne_nil
  single c filled := split_lines_plain c [] (plain_of_not_blank c filled)
  append := split_lines_append
  kept := split_lines_kept
  related _ keeps := split_lines_related keeps

theorem readable_lines_counts (width : Nat) : CountsLines (Markup.readableLines width) where
  nil := rfl
  filled text filled := by
    have soft : Markup.softenBreaks text ≠ [] := by simpa [Markup.softenBreaks] using filled
    simpa [Markup.readableLines] using split_lines_ne_nil _ soft
  single c filled := by
    have noTab : c ≠ '\t' := fun tab => by simp [tab, isBlank] at filled
    have soft : Markup.softenBreaks [c] = [c] := by simp [Markup.softenBreaks, Markup.hard_of_not_blank c filled]
    rw [Markup.readableLines, soft, split_lines_counts.single c filled]
    simp [Markup.expandTabs, noTab, trimRight, filled]
  append before after := by
    rw [Markup.readableLines, Markup.soften_breaks_feed, split_lines_append, List.map_append, Markup.readableLines,
      Markup.soften_breaks_feed]
    rfl
  kept before after := by
    rw [Markup.readableLines, Markup.readableLines, Markup.soften_breaks_feed]
    exact (split_lines_kept _ _).map _
  related _ keeps := Markup.readable_lines_related keeps width

def EndsLine (text : List Char) : Prop := text = [] ∨ ∃ before, text = before ++ ['\n']

def StartsBelow (text : List Char) : Prop := text = [] ∨ ∃ after, text = '\n' :: after

theorem starts_below_append (text more : List Char) (below : StartsBelow text) (moreBelow : StartsBelow more) :
    StartsBelow (text ++ more) := by
  rcases below with rfl | ⟨after, rfl⟩
  · exact moreBelow
  · exact .inr ⟨after ++ more, rfl⟩

theorem lines_between (lines : List Char → List (List Char)) (counts : CountsLines lines) (lead own back : List Char)
    (ends : EndsLine lead) (below : StartsBelow back) :
    ∃ others, lines (lead ++ (own ++ back)) = lines lead ++ (lines own ++ others) := by
  have front : lines (lead ++ (own ++ back)) = lines lead ++ lines (own ++ back) := by
    rcases ends with rfl | ⟨before, rfl⟩
    · simp [counts.nil]
    · rw [List.append_assoc]
      exact counts.append before (own ++ back)
  rw [front]
  rcases below with rfl | ⟨after, rfl⟩
  · exact ⟨[], by simp⟩
  · obtain ⟨others, kept⟩ := counts.kept own after
    exact ⟨others, by rw [kept]⟩

theorem unify_line_ends_absent (text : List Char) : '\r' ∉ unifyLineEnds text := by
  fun_induction unifyLineEnds text with
  | case1 => simp
  | case2 rest ih => simpa using ih
  | case3 c rest _ ih =>
      rw [List.mem_cons, not_or]
      refine ⟨?_, ih⟩
      by_cases carriage : c = '\r'
      · simp [carriage]
      · simpa [carriage] using Ne.symm carriage

theorem unify_line_ends_eq_self_iff (text : List Char) : unifyLineEnds text = text ↔ '\r' ∉ text := by
  constructor
  · intro same
    rw [← same]
    exact unify_line_ends_absent text
  · intro absent
    fun_induction unifyLineEnds text with
    | case1 => rfl
    | case2 rest ih => simp at absent
    | case3 c rest _ ih =>
        rw [List.mem_cons, not_or] at absent
        rw [if_neg (Ne.symm absent.1), ih absent.2]

end MarkupLint.Text
