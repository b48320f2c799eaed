import MarkupLint.Code.Position
import Mathlib.Data.List.Induction

set_option autoImplicit false

namespace MarkupLint.Code

section LastLine

variable (holds : List Char → Bool)

structure LastCut (lines before : List (List Char)) (line : List Char) (after : List (List Char)) : Prop where
  split : lines = before ++ line :: after
  held : holds line = true
  last : ∀ later ∈ after, holds later = false

theorem last_line_snoc (lines : List (List Char)) (line : List Char) :
    lastLine? holds (lines ++ [line]) = if holds line then some (lines.length + 1) else lastLine? holds lines := by
  rw [lastLine?, lastLine?, List.zipIdx_append, List.filter_append]
  by_cases held : holds line = true
  · simp [held, Nat.add_comm]
  · simp [held]

theorem last_line_of_cut (lines before : List (List Char)) (line : List Char) (after : List (List Char))
    (cut : LastCut holds lines before line after) : lastLine? holds lines = some (before.length + 1) := by
  obtain ⟨rfl, held, last⟩ := cut
  induction after using List.reverseRecOn with
  | nil => rw [last_line_snoc, if_pos held]
  | append_singleton after final ih =>
      have finalNot : holds final = false := last final (by simp)
      rw [← List.cons_append, ← List.append_assoc, last_line_snoc, finalNot]
      exact ih fun later member => last later (List.mem_append_left _ member)

theorem last_cut_of_line (lines : List (List Char)) (number : Nat) (found : lastLine? holds lines = some number) :
    ∃ before line after, LastCut holds lines before line after ∧ number = before.length + 1 := by
  induction lines using List.reverseRecOn with
  | nil => simp [lastLine?] at found
  | append_singleton lines final ih =>
      rw [last_line_snoc] at found
      by_cases held : holds final = true
      · rw [if_pos held, Option.some.injEq] at found
        exact ⟨lines, final, [], ⟨rfl, held, by simp⟩, found.symm⟩
      · rw [if_neg held] at found
        obtain ⟨before, line, after, ⟨rfl, lineHeld, last⟩, rfl⟩ := ih found
        refine ⟨before, line, after ++ [final], ⟨by simp, lineHeld, ?_⟩, rfl⟩
        intro later member
        rcases List.mem_append.mp member with inner | atEnd
        · exact last later inner
        · exact List.mem_singleton.mp atEnd ▸ Bool.eq_false_iff.mpr held

end LastLine

-- The directive that a block with a line belongs to: in a project it stands on the line itself, and
-- elsewhere on the last line above that starts one.
inductive DirectiveAt (project : Bool) (source : String) (line : Int) : Int → Prop
  | own (inProject : project = true) : DirectiveAt project source line line
  | above (alone : project = false) (before : List (List Char)) (text : List Char) (after : List (List Char))
      (cut : LastCut isCodeDirective ((Text.splitLines source.toList).take (line.toNat - 1)) before text after) :
      DirectiveAt project source line (before.length + 1)

theorem directive_line_ok (project : Bool) (source : String) (line : Option Int)
    (inside : ∀ own, line = some own → own ≤ (Text.splitLines source.toList).length + 1) :
    ∃ directive, directiveLine project source line = .ok directive ∧
      ∀ found, directive = some found ↔ ∃ own, line = some own ∧ DirectiveAt project source own found := by
  cases line with
  | none => exact ⟨none, rfl, by simp⟩
  | some own =>
      have bound := inside own rfl
      simp only [Option.some.injEq, exists_eq_left']
      by_cases inProject : project = true
      · refine ⟨some own, by simp [directiveLine, inProject], fun found => ?_⟩
        constructor
        · rintro ⟨rfl⟩
          exact .own inProject
        · intro stands
          cases stands with
          | own => rfl
          | above alone => simp [inProject] at alone
      · let above := (Text.splitLines source.toList).take (own.toNat - 1)
        have lookedFor : directiveLine project source (some own)
            = .ok ((lastLine? isCodeDirective above).map fun number : Nat => (number : Int)) := by
          by_cases first : own ≤ 1
          · have nothing : above = [] := by
              have none : own.toNat - 1 = 0 := by omega
              simp [above, none]
            simp [directiveLine, inProject, first, nothing, lastLine?]
          · have notBeyond : ¬ (Text.splitLines source.toList).length < own.toNat - 1 := by omega
            simp only [directiveLine, inProject, first, notBeyond, if_false, Bool.false_eq_true]
            cases lastLine? isCodeDirective above <;> rfl
        refine ⟨_, lookedFor, fun found => ?_⟩
        rw [Option.map_eq_some_iff]
        constructor
        · rintro ⟨number, holds, rfl⟩
          obtain ⟨before, text, after, cut, rfl⟩ := last_cut_of_line isCodeDirective above number holds
          exact .above (Bool.eq_false_iff.mpr inProject) before text after cut
        · intro stands
          cases stands with
          | own held => exact absurd held inProject
          | above alone before text after cut =>
              exact ⟨before.length + 1, last_line_of_cut isCodeDirective above before text after cut, rfl⟩

end MarkupLint.Code
