import MarkupLint.Text.Search
import Mathlib.Data.List.Infix
import Mathlib.Data.List.TakeWhile

set_option autoImplicit false

namespace MarkupLint.Text

@[simp]
theorem drop_start_some_iff (start text rest : List Char) :
    dropStart? start text = some rest ↔ text = start ++ rest := by
  induction start generalizing text with
  | nil => simp [dropStart?]
  | cons s start ih =>
      cases text with
      | nil => simp [dropStart?]
      | cons c text =>
          by_cases same : s = c
          · simp [dropStart?, same, ih]
          · simp [dropStart?, same, Ne.symm same]

@[simp]
theorem drop_start_none_iff (start text : List Char) :
    dropStart? start text = none ↔ ¬ start <+: text := by
  rw [Option.eq_none_iff_forall_ne_some, List.IsPrefix, not_exists]
  refine forall_congr' fun rest => not_congr ?_
  rw [drop_start_some_iff, eq_comm]

@[simp]
theorem starts_with_iff (start text : List Char) : startsWith start text = true ↔ start <+: text := by
  rw [startsWith, Option.isSome_iff_ne_none, ne_eq, drop_start_none_iff, Decidable.not_not]

structure FirstCut (piece text before after : List Char) : Prop where
  split : text = before ++ piece ++ after
  first : ∀ early late, text = early ++ piece ++ late → before.length ≤ early.length

theorem first_cut_here (piece after : List Char) : FirstCut piece (piece ++ after) [] after :=
  ⟨rfl, fun _ _ _ => Nat.zero_le _⟩

theorem first_cut_cons (piece text before after : List Char) (c : Char)
    (notHere : ¬ piece <+: c :: text) (cut : FirstCut piece text before after) :
    FirstCut piece (c :: text) (c :: before) after := by
  refine ⟨by simp [cut.split], ?_⟩
  intro early late split
  cases early with
  | nil => exact absurd ⟨late, by simpa using split.symm⟩ notHere
  | cons e early =>
      have tail : text = early ++ piece ++ late := by simpa using congrArg List.tail split
      exact Nat.succ_le_succ (cut.first early late tail)

theorem cut_some_first (piece text before after : List Char)
    (found : cut? piece text = some (before, after)) : FirstCut piece text before after := by
  induction text generalizing before with
  | nil =>
      by_cases empty : piece = []
      · simp only [cut?, if_pos empty, Option.some.injEq, Prod.mk.injEq] at found
        obtain ⟨rfl, rfl⟩ := found
        simpa [empty] using first_cut_here piece []
      · simp [cut?, empty] at found
  | cons c text ih =>
      cases here : dropStart? piece (c :: text) with
      | some rest =>
          simp only [cut?, here, Option.some.injEq, Prod.mk.injEq] at found
          obtain ⟨rfl, rfl⟩ := found
          rw [(drop_start_some_iff _ _ _).mp here]
          exact first_cut_here piece rest
      | none =>
          simp only [cut?, here, Option.map_eq_some_iff, Prod.mk.injEq, Prod.exists] at found
          obtain ⟨start, rest, later, rfl, rfl⟩ := found
          exact first_cut_cons piece text start rest c ((drop_start_none_iff _ _).mp here) (ih start later)

theorem cut_none_iff (piece text : List Char) : cut? piece text = none ↔ ¬ piece <:+: text := by
  induction text with
  | nil => simp [cut?]
  | cons c text ih =>
      cases here : dropStart? piece (c :: text) with
      | some rest =>
          have found : piece <+: c :: text := ⟨rest, ((drop_start_some_iff _ _ _).mp here).symm⟩
          simp [cut?, here, found.isInfix]
      | none =>
          have notHere := (drop_start_none_iff _ _).mp here
          simp [cut?, here, ih, List.infix_cons_iff, notHere]

theorem first_cut_unique (piece text before after others rest : List Char) (cut : FirstCut piece text before after)
    (again : FirstCut piece text others rest) : before = others ∧ after = rest := by
  have place : before.length = others.length :=
    Nat.le_antisymm (cut.first others rest again.split) (again.first before after cut.split)
  have same := cut.split.symm.trans again.split
  rw [List.append_assoc, List.append_assoc] at same
  obtain ⟨front, back⟩ := List.append_inj same place
  exact ⟨front, List.append_cancel_left back⟩

theorem cut_some_iff (piece text before after : List Char) :
    cut? piece text = some (before, after) ↔ FirstCut piece text before after := by
  refine ⟨cut_some_first piece text before after, fun cut => ?_⟩
  cases found : cut? piece text with
  | none =>
      rw [cut_none_iff] at found
      exact absurd ⟨before, after, cut.split.symm⟩ found
  | some parts =>
      obtain ⟨rfl, rfl⟩ := first_cut_unique piece text _ _ _ _ (cut_some_first piece text parts.1 parts.2 found) cut
      rfl

@[simp]
theorem contains_iff (piece text : List Char) : contains piece text = true ↔ piece <:+: text := by
  rw [contains, Option.isSome_iff_ne_none, ne_eq, cut_none_iff, Decidable.not_not]

@[simp]
theorem has_piece_iff (text piece : String) : hasPiece text piece = true ↔ piece.toList <:+: text.toList :=
  contains_iff _ _

theorem cut_char_some (separator : Char) (text before after : List Char)
    (found : cut? [separator] text = some (before, after)) :
    text = before ++ separator :: after ∧ separator ∉ before := by
  obtain ⟨split, first⟩ := cut_some_first _ _ _ _ found
  refine ⟨by simpa using split, ?_⟩
  intro member
  -- A separator before the cut would be an earlier place to cut at.
  obtain ⟨early, late, within⟩ := List.append_of_mem member
  have bound := first early (late ++ separator :: after) (by simp [split, within])
  rw [within, List.length_append, List.length_cons] at bound
  omega

theorem cut_char_none (separator : Char) (text : List Char) (missing : cut? [separator] text = none) :
    separator ∉ text := by
  rw [cut_none_iff, List.singleton_infix_iff] at missing
  exact missing

theorem cut_char_first (separator : Char) (before after : List Char) (absent : separator ∉ before) :
    cut? [separator] (before ++ separator :: after) = some (before, after) := by
  induction before with
  | nil => simp [cut?, dropStart?]
  | cons c before ih =>
      rw [List.mem_cons, not_or] at absent
      simp [cut?, dropStart?, absent.1, ih absent.2]

theorem ne_separator_of_absent (separator : Char) (text : List Char) (absent : separator ∉ text) :
    ∀ c ∈ text, decide (c ≠ separator) = true :=
  fun _ member => decide_eq_true fun same => absent (same ▸ member)

theorem head_drop_while (holds : Char → Bool) (text : List Char) :
    ∀ c ∈ (text.dropWhile holds).head?, holds c = false := by
  intro c first
  have stops := List.head?_dropWhile_not holds text
  rw [Option.mem_def.mp first] at stops
  simpa using stops

theorem take_drop_while_row (holds : Char → Bool) (row rest : List Char) (all : ∀ d ∈ row, holds d = true)
    (ends : ∀ c ∈ rest.head?, holds c = false) :
    (row ++ rest).takeWhile holds = row ∧ (row ++ rest).dropWhile holds = rest := by
  rw [List.takeWhile_append_of_pos all, List.dropWhile_append_of_pos all]
  cases rest with
  | nil => simp
  | cons c rest => simp [ends c rfl]

theorem take_while_until (holds : Char → Bool) (row rest : List Char) (c : Char) (all : ∀ d ∈ row, holds d = true)
    (stops : holds c = false) : (row ++ c :: rest).takeWhile holds = row :=
  (take_drop_while_row holds row (c :: rest) all (by simpa using stops)).1

theorem take_until_separator (separator : Char) (before after : List Char) (absent : separator ∉ before) :
    (before ++ separator :: after).takeWhile (· ≠ separator) = before :=
  take_while_until _ before after separator (ne_separator_of_absent separator before absent) (by simp)

theorem split_at_most_cut (separator : Char) (count : Nat) (before after : List Char) (absent : separator ∉ before) :
    splitAtMost separator (count + 1) (before ++ separator :: after) = before :: splitAtMost separator count after := by
  rw [splitAtMost, cut_char_first separator before after absent]

theorem split_at_most_head (separator : Char) (count : Nat) (text : List Char) :
    (splitAtMost separator (count + 1) text).headD [] = text.takeWhile (· ≠ separator) := by
  cases found : cut? [separator] text with
  | none =>
      have absent := cut_char_none separator text found
      have whole : text.takeWhile (· ≠ separator) = text :=
        List.takeWhile_eq_self_iff.mpr (ne_separator_of_absent separator text absent)
      simpa [splitAtMost, found] using whole.symm
  | some parts =>
      obtain ⟨split, absent⟩ := cut_char_some separator text parts.1 parts.2 found
      rw [split, take_until_separator separator parts.1 parts.2 absent, ← split]
      simp [splitAtMost, found]

theorem split_at_most_last_none_iff (separator : Char) (count : Nat) (text : List Char) :
    (splitAtMost separator count text)[count]? = none ↔ text.count separator < count := by
  induction count generalizing text with
  | zero => simp [splitAtMost]
  | succ count ih =>
      cases found : cut? [separator] text with
      | none =>
          have absent := List.count_eq_zero.mpr (cut_char_none separator text found)
          simp [splitAtMost, found, absent]
      | some parts =>
          obtain ⟨split, absent⟩ := cut_char_some separator text parts.1 parts.2 found
          have total : text.count separator = parts.2.count separator + 1 := by
            rw [split, List.count_append, List.count_eq_zero.mpr absent]
            simp
          simp [splitAtMost, found, ih, total]

@[simp]
theorem cut_last_none_iff (mark : Char) (text : List Char) : cutLast? mark text = none ↔ mark ∉ text := by
  induction text with
  | nil => simp [cutLast?]
  | cons c rest ih =>
      cases found : cutLast? mark rest with
      | some parts =>
          have held : mark ∈ rest := Decidable.not_not.mp fun absent => by simp [ih.mpr absent] at found
          simp [cutLast?, found, held]
      | none => simp [cutLast?, found, ih.mp found, eq_comm]

theorem cut_last_some_iff (mark : Char) (text before after : List Char) :
    cutLast? mark text = some (before, after) ↔ text = before ++ mark :: after ∧ mark ∉ after := by
  constructor
  · intro found
    induction text generalizing before with
    | nil => cases found
    | cons c rest ih =>
        rw [cutLast?] at found
        split at found
        · next start back later =>
            cases found
            obtain ⟨rfl, absent⟩ := ih start later
            exact ⟨rfl, absent⟩
        · next missing =>
            rw [Option.ite_none_right_eq_some] at found
            obtain ⟨rfl, here⟩ := found
            cases here
            exact ⟨rfl, (cut_last_none_iff _ _).mp missing⟩
  · rintro ⟨rfl, absent⟩
    induction before with
    | nil => simp [cutLast?, (cut_last_none_iff mark after).mpr absent]
    | cons c before ih => simp [cutLast?, ih]

end MarkupLint.Text
