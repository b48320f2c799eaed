import MarkupLint.Check
import MarkupLint.Proofs.Code.Position
import MarkupLint.Proofs.Report
import Mathlib.Data.List.Forall2

set_option autoImplicit false

namespace MarkupLint.Code

theorem last_line_none_iff (holds : List Char → Bool) (lines : List (List Char)) :
    lastLine? holds lines = none ↔ ∀ line ∈ lines, holds line = false := by
  induction lines using List.reverseRecOn with
  | nil => simp [lastLine?]
  | append_singleton lines final ih =>
      rw [last_line_snoc]
      by_cases held : holds final = true
      · simp [held]
      · simp [held, ih, or_imp, forall_and]

theorem line_at_number (lines : List (List Char)) (number : Nat) (positive : 1 ≤ number) :
    lineAt? lines ((number : Int) - 1) = lines[number - 1]? := by
  have inside : (0 : Int) ≤ (number : Int) - 1 := by omega
  have index : ((number : Int) - 1).toNat = number - 1 := by omega
  simp only [lineAt?, if_pos inside, index]

def beginningFrom (number length : Nat) : Option Nat → Except Failure Int
  | some last => .ok ((last : Int) - length + 1)
  | none => if number = 1 then .error .noLineAbove else .ok (2 - (length : Int))

theorem search_above_eq (lines : List (List Char)) (number length : Nat) (positive : 1 ≤ number) :
    (if (number : Int) ≤ 1 then .error .noLineAbove
      else if lines.length < number - 1 then .error .missingLine
      else match lastLine? hasText (lines.take (number - 1)) with
        | some last => .ok ((last : Int) + 1 - length)
        | none => .ok (2 - (length : Int)))
      = if lines.length + 1 < number then .error .missingLine
        else beginningFrom number length (lastLine? hasText (lines.take (number - 1))) := by
  by_cases single : number = 1
  · subst single
    simp [beginningFrom, lastLine?]
  · have below : ¬ (number : Int) ≤ 1 := by omega
    have beyond : lines.length < number - 1 ↔ lines.length + 1 < number := by omega
    rw [if_neg below, if_congr beyond rfl rfl]
    cases lastLine? hasText (lines.take (number - 1)) with
    | none => rw [beginningFrom, if_neg single]
    | some last =>
        have same : (last : Int) + 1 - length = last - length + 1 := by omega
        simp only [beginningFrom, same]

-- The line itself is looked at first and then those above it, which is one search for the last line with text.
-- The line behind the last one counts as a blank one.
theorem beginning_above_eq (source : String) (number length : Nat) (positive : 1 ≤ number) :
    beginningAbove source number length =
      if (Text.splitLines source.toList).length + 1 < number then .error .missingLine
      else beginningFrom number length (lastLine? hasText ((Text.splitLines source.toList).take number)) := by
  simp only [beginningAbove, line_at_number _ number positive, Int.toNat_natCast]
  generalize Text.splitLines source.toList = lines
  refine Eq.trans (if_congr Iff.rfl rfl (search_above_eq lines number length positive)) ?_
  by_cases inside : number ≤ lines.length
  · have index : number - 1 < lines.length := by omega
    have within : ¬ lines.length + 1 < number := by omega
    have split : lines.take number = lines.take (number - 1) ++ [lines[number - 1]] := by
      rw [List.take_append_getElem, Nat.sub_add_cancel positive]
    have counted : (lines.take (number - 1)).length + 1 = number := by
      rw [List.length_take, Nat.min_eq_left (Nat.le_of_lt index), Nat.sub_add_cancel positive]
    rw [List.getElem?_eq_getElem index, split, last_line_snoc, counted, if_neg within, if_neg within]
    by_cases held : hasText lines[number - 1] = true
    · simp [held, beginningFrom]
    · simp [held]
  · have missing : lines[number - 1]? = none := List.getElem?_eq_none (by omega)
    have all : lines.take number = lines.take (number - 1) := by
      rw [List.take_of_length_le (by omega), List.take_of_length_le (by omega)]
    rw [missing, all]
    rfl

theorem line_shown (lines above shown below : List (List Char)) (last place : Nat)
    (split : lines = above ++ shown ++ below) (ends : above.length + shown.length = last) (positive : 1 ≤ place)
    (inside : place ≤ shown.length) :
    lineAt? lines ((last : Int) - shown.length + place - 1) = shown[place - 1]? := by
  have number : (last : Int) - shown.length + place - 1 = ((above.length + place : Nat) : Int) - 1 := by omega
  have index : above.length + place - 1 = above.length + (place - 1) := by omega
  rw [number, line_at_number lines _ (by omega), split, List.append_assoc, index, List.getElem?_append_right (by omega),
    Nat.add_sub_cancel_left, List.getElem?_append_left (by omega)]

end MarkupLint.Code

namespace MarkupLint.Check

open Code (hasText LastCut)

def movedTo (block : Code.Block) (first : Int) (finding : Finding) : Finding :=
  ⟨finding.origin, first + (finding.line - 1), "(" ++ block.language.name ++ ") " ++ finding.message⟩

section Block

variable (bench : Workbench) (nested : Request → Checking Report) (origin : Origin) (reportRank : Nat)
  (warnUnknown : Bool) (source : String) (block : Code.Block) (session : Session)

theorem check_block_run (placed : block.line.isSome = true) :
    let inner := ((checkCode bench nested origin reportRank warnUnknown block.language block.raw).run session).1
    ((checkBlock bench nested origin reportRank warnUnknown source block).run session).1 =
      match Code.beginning bench.project source block.raw block.line block.attributes block.byClass with
      | .ok first => ⟨inner.findings.map (movedTo block first), inner.failure⟩
      | .error failure => if inner.findings = [] then ⟨[], inner.failure⟩ else .failed failure := by
  intro inner
  change inner.refine (placeFinding bench source block) = _
  have known : ¬ block.line.isNone = true := by simpa [Option.isSome_iff_ne_none] using placed
  cases begins : Code.beginning bench.project source block.raw block.line block.attributes block.byClass with
  | ok first =>
      refine Report.refine_map _ _ inner fun finding _ => ?_
      rw [placeFinding, if_neg known, begins]
      rfl
  | error failure =>
      refine Report.refine_failed _ failure inner fun finding => ?_
      rw [placeFinding, if_neg known, begins]
      rfl

/-- The code of a block ends at the last line with text among those up to the line of the block, so that a finding in
one of its lines is reported at the line that shows it. Without such a line, and behind the end of the document, the
block has no right place. -/
theorem check_block_places (upwards : bench.project = false ∨ block.byClass = true) (number : Nat)
    (positive : 1 ≤ number) (stands : block.line = some (number : Int)) :
    let lines := Text.splitLines source.toList
    let code := Text.splitLines block.raw.toList
    let first := Code.beginning bench.project source block.raw block.line block.attributes block.byClass
    let inner := ((checkCode bench nested origin reportRank warnUnknown block.language block.raw).run session).1
    let placed := ((checkBlock bench nested origin reportRank warnUnknown source block).run session).1
    (∀ before text after, number ≤ lines.length + 1 → LastCut hasText (lines.take number) before text after →
      let last := before.length + 1
      first = .ok ((last : Int) - code.length + 1) ∧
      placed = ⟨inner.findings.map fun finding => ⟨finding.origin, (last : Int) - code.length + finding.line,
        "(" ++ block.language.name ++ ") " ++ finding.message⟩, inner.failure⟩ ∧
      ∀ shows above shown below, lines = above ++ shown ++ below → above.length + shown.length = last →
        List.Forall₂ shows shown code → ∀ place : Nat, 1 ≤ place → place ≤ code.length →
          ∃ line text, Code.lineAt? lines ((last : Int) - code.length + place - 1) = some line ∧
            code[place - 1]? = some text ∧ shows line text) ∧
    ((∀ text ∈ lines.take number, hasText text = false) → (number = 1 → first = .error .noLineAbove) ∧
      (2 ≤ number → number ≤ lines.length + 1 → first = .ok (2 - (code.length : Int)))) ∧
    (lines.length + 2 ≤ number → first = .error .missingLine) ∧
    placed = match first with
      | .ok first => ⟨inner.findings.map (movedTo block first), inner.failure⟩
      | .error failure => if inner.findings = [] then ⟨[], inner.failure⟩ else .failed failure := by
  intro lines code first inner placed
  have moved : placed = match first with
      | .ok first => ⟨inner.findings.map (movedTo block first), inner.failure⟩
      | .error failure => if inner.findings = [] then ⟨[], inner.failure⟩ else .failed failure :=
    check_block_run bench nested origin reportRank warnUnknown source block session (by simp [stands])
  have begins : first = if lines.length + 1 < number then .error .missingLine
      else Code.beginningFrom number code.length (Code.lastLine? hasText (lines.take number)) := by
    have own : (bench.project && !block.byClass) = false := by rcases upwards with alone | named <;> simp [*]
    rw [← Code.beginning_above_eq source number code.length positive]
    simp only [first, Code.beginning, own, stands]
    rfl
  refine ⟨?_, ?_, ?_, moved⟩
  · intro before text after inside cut last
    have found : first = .ok ((last : Int) - code.length + 1) := by
      rw [begins, if_neg (by omega), Code.last_line_of_cut hasText _ before text after cut]
      rfl
    refine ⟨found, ?_, ?_⟩
    · rw [moved, found]
      refine congrArg (Report.mk · inner.failure) (List.map_congr_left fun finding _ => ?_)
      rw [movedTo]
      congr 1
      omega
    · intro shows above shown below split ends faithful place positive inside
      have counted := faithful.length_eq
      rw [← counted] at inside ⊢
      rw [Code.line_shown lines above shown below last place split ends positive inside]
      have here : place - 1 < shown.length := by omega
      have there : place - 1 < code.length := by omega
      exact ⟨shown[place - 1], code[place - 1], List.getElem?_eq_getElem here, List.getElem?_eq_getElem there,
        faithful.get here there⟩
  · intro blank
    have none := (Code.last_line_none_iff hasText (lines.take number)).mpr blank
    refine ⟨fun single => ?_, fun several inside => ?_⟩
    · rw [begins, if_neg (by omega), none, Code.beginningFrom, if_pos single]
    · rw [begins, if_neg (by omega), none, Code.beginningFrom, if_neg (by omega)]
  · intro beyond
    rw [begins, if_pos (by omega)]

end Block

-- A block of two lines, the second one wrong, with two blank lines below it.
def faultyBlock : Code.Block := ⟨.json, "[1,\n]", some 8, 3, false⟩

def faultySource : String := "Text\n\n.. code:: json\n\n   [1,\n   ]\n\n\n"

/-- The wrong line is the sixth of the document. -/
theorem check_block_places_faulty :
    let bench : Workbench :=
      { project := false
        yaml := false
        nesting := 9
        tools := ⟨fun _ => none, fun _ => ⟨"", ["t"]⟩, fun _ => none⟩
        files := default }
    let alone := fun _ => pure .empty
    Code.beginning false faultySource faultyBlock.raw faultyBlock.line faultyBlock.attributes faultyBlock.byClass = .ok 5 ∧
    ((checkBlock bench alone (.text "a") 1 false faultySource faultyBlock).run {}).1
      = .ofFindings [⟨"a", 6, "(json) Expecting value: line 2 column 1 (char 4)"⟩] ∧
    Code.lineAt? (Text.splitLines faultySource.toList) 5 = some "   ]".toList := by
  intro bench alone
  obtain ⟨cut, -, -, -⟩ := check_block_places bench alone (.text "a") 1 false faultySource faultyBlock {} (.inl rfl) 8
    (by decide) rfl
  obtain ⟨begins, placed, shown⟩ := cut ["Text".toList, [], ".. code:: json".toList, [], "   [1,".toList] "   ]".toList
    [[], []] (by decide +kernel) ⟨by decide +kernel, by decide +kernel, by decide +kernel⟩
  refine ⟨begins, placed.trans (by decide +kernel), ?_⟩
  obtain ⟨line, text, found, own, rfl⟩ := shown (fun line text => line = "   ".toList ++ text)
    ["Text".toList, [], ".. code:: json".toList, []] ["   [1,".toList, "   ]".toList] [[], []]
    (by decide +kernel) (by decide) (.cons (by decide +kernel) (.cons (by decide +kernel) .nil)) 2 (by decide) (by decide)
  rw [show text = "]".toList from Option.some.inj (own.symm.trans (by decide +kernel))] at found
  exact found

end MarkupLint.Check
