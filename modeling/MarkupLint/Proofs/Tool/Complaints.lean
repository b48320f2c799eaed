import MarkupLint.Check
import MarkupLint.Proofs.Suppression

set_option autoImplicit false

namespace MarkupLint.Tool

open Finding (CutShort lineStart numberText colonsOf)

def shellStart (file : Path) : List Char := (toString file ++ ": line ").toList

def Garbled (file : Path) (line : String) : Prop :=
  ∃ rest, line.toList = shellStart file ++ rest ∧
    ((∀ number, Text.readInteger (numberText rest) ≠ .ok number) ∨ ':' ∉ rest)

theorem read_compiler_line_eq (origin : Origin) (file : Path) (line : String) :
    readCompilerLine origin file line = Finding.passing (Finding.ofLine origin (some file) true line) := rfl

theorem read_shell_line_own (origin : Origin) (file : Path) (line : String) (rest : List Char)
    (own : Text.dropStart? (shellStart file) line.toList = some rest) :
    readShellLine origin file line =
      match Text.readInteger (numberText rest) with
      | .error cause => .error (.number cause)
      | .ok number =>
          match (Text.splitAtMost ':' 1 rest)[1]? with
          | some message => .ok (some ⟨origin.name, number - 1, String.ofList (Text.trim message)⟩)
          | none => .error .missingPart := by
  rw [numberText, ← Text.split_at_most_head ':' 0 rest]
  unfold shellStart at own
  rewrite [readShellLine, own]
  rfl

theorem read_shell_line_error_iff (origin : Origin) (file : Path) (line : String) :
    (∃ failure, readShellLine origin file line = .error failure) ↔ Garbled file line := by
  cases own : Text.dropStart? (shellStart file) line.toList with
  | none =>
      have foreign : readShellLine origin file line = .ok none := by
        simp only [shellStart] at own
        simp only [readShellLine, own]
      refine iff_of_false (by simp [foreign]) ?_
      rintro ⟨rest, split, -⟩
      exact (Text.drop_start_none_iff _ _).mp own ⟨rest, split.symm⟩
  | some rest =>
      have split := (Text.drop_start_some_iff _ _ _).mp own
      have garbled : Garbled file line ↔
          (∀ number, Text.readInteger (numberText rest) ≠ .ok number) ∨ ':' ∉ rest := by
        constructor
        · rintro ⟨other, otherSplit, why⟩
          rwa [List.append_cancel_left (otherSplit.symm.trans split)] at why
        · exact fun why => ⟨rest, split, why⟩
      rw [garbled, read_shell_line_own origin file line rest own]
      cases reads : Text.readInteger (numberText rest) with
      | error cause => simp
      | ok number =>
          have enough := Text.split_at_most_last_none_iff ':' 1 rest
          rw [Nat.lt_one_iff, List.count_eq_zero] at enough
          cases part : (Text.splitAtMost ':' 1 rest)[1]? <;> simp [part, ← enough]

theorem read_complaints_text (read : String → Except Failure (Option Finding)) (stderr : List UInt8)
    (text : List Char) (decoded : Text.decodeUtf8 stderr = .ok text) :
    readComplaints read stderr = Report.collect read (Text.lines (String.ofList text)) := by
  simp only [readComplaints, decoded]

theorem run_tool_failure_none_iff (bench : Workbench) (plan : Plan) (session : Session) (stderr : List UInt8)
    (text : List Char) (complained : bench.tools.run plan.call = some stderr)
    (decoded : Text.decodeUtf8 stderr = .ok text) :
    ((Check.runTool bench plan).run session).1.failure = none ↔
      ∀ line ∈ Text.lines (String.ofList text), ∀ failure, plan.read line ≠ .error failure := by
  have report : ((Check.runTool bench plan).run session).1 = readComplaints plan.read stderr := by
    simp only [Check.runTool, complained]
    rfl
  rw [report, read_complaints_text plan.read stderr text decoded, Report.collect_failure_none_iff]

theorem compiler_plan_read (compiler : Compiler) (box : Toolbox) (origin : Origin) (code : String) (plan : Plan)
    (planned : compilerPlan compiler box origin code = .ok plan) :
    plan.read = readCompilerLine origin (box.file compiler.extension) := by
  rw [compilerPlan] at planned
  cases own : flags box compiler.flags with
  | error cause => rw [own] at planned; cases planned
  | ok ownWords =>
      cases shared : flags box "CPPFLAGS" with
      | error cause => rw [own, shared] at planned; cases planned
      | ok sharedWords =>
          rw [own, shared] at planned
          cases planned
          rfl

theorem compiler_failure_none_iff (compiler : Compiler) (bench : Workbench) (origin : Origin) (code : String)
    (plan : Plan) (session : Session) (stderr : List UInt8) (text : List Char)
    (planned : compilerPlan compiler bench.tools origin code = .ok plan)
    (complained : bench.tools.run plan.call = some stderr) (decoded : Text.decodeUtf8 stderr = .ok text) :
    ((Check.runTool bench plan).run session).1.failure = none ↔
      ∀ line ∈ Text.lines (String.ofList text),
        ¬ CutShort (lineStart origin (some (bench.tools.file compiler.extension))) (colonsOf true) line := by
  rw [run_tool_failure_none_iff bench plan session stderr text complained decoded,
    compiler_plan_read compiler bench.tools origin code plan planned]
  refine forall_congr' fun line => imp_congr_right fun _ => ?_
  rw [← not_exists, read_compiler_line_eq, Finding.passing_error_iff, Finding.of_line_missing_part_iff]

theorem shell_failure_none_iff (bench : Workbench) (nested : Request → Checking Report) (origin : Origin)
    (reportRank : Nat) (warnUnknown : Bool) (code : String) (session : Session) (stderr : List UInt8)
    (text : List Char) (complained : bench.tools.run (bashPlan bench.tools origin code).call = some stderr)
    (decoded : Text.decodeUtf8 stderr = .ok text) :
    ((Check.checkCode bench nested origin reportRank warnUnknown .bash code).run session).1.failure = none ↔
      ∀ line ∈ Text.lines (String.ofList text), ¬ Garbled (bench.tools.file ".bash") line := by
  have plain := run_tool_failure_none_iff bench _ session stderr text complained decoded
  refine plain.trans (forall_congr' fun line => imp_congr_right fun _ => ?_)
  rw [← not_exists, ← read_shell_line_error_iff origin]
  rfl

/-- Exactly these lines end the reading of messages and of complaints. All others are findings, or are passed over. -/
theorem output_failure_none_iff (origin : Origin) (bench : Workbench) (session : Session) :
    (∀ file? hasColumn line, Finding.ofLine origin file? hasColumn line = .error .missingPart ↔
      CutShort (lineStart origin file?) (colonsOf hasColumn) line) ∧
    (∀ ignored text, (Suppression.readMessages origin ignored text).failure = none ↔
      ∀ line ∈ Suppression.kept ignored (Text.lines text), ¬ CutShort (lineStart origin none) (colonsOf false) line) ∧
    (∀ compiler code plan stderr text, compilerPlan compiler bench.tools origin code = .ok plan →
      bench.tools.run plan.call = some stderr → Text.decodeUtf8 stderr = .ok text →
      (((Check.runTool bench plan).run session).1.failure = none ↔
        ∀ line ∈ Text.lines (String.ofList text),
          ¬ CutShort (lineStart origin (some (bench.tools.file compiler.extension))) (colonsOf true) line)) ∧
    (∀ nested reportRank warnUnknown code stderr text,
      bench.tools.run (bashPlan bench.tools origin code).call = some stderr → Text.decodeUtf8 stderr = .ok text →
      (((Check.checkCode bench nested origin reportRank warnUnknown .bash code).run session).1.failure = none ↔
        ∀ line ∈ Text.lines (String.ofList text), ¬ Garbled (bench.tools.file ".bash") line)) := by
  refine ⟨Finding.of_line_missing_part_iff origin, ?_, ?_, ?_⟩
  · intro ignored text
    simp only [Suppression.read_messages_failure_none_iff, ne_eq, Finding.of_line_missing_part_iff]
  · intro compiler code plan stderr text planned complained decoded
    exact compiler_failure_none_iff compiler bench origin code plan session stderr text planned complained decoded
  · intro nested reportRank warnUnknown code stderr text complained decoded
    exact shell_failure_none_iff bench nested origin reportRank warnUnknown code session stderr text complained
      decoded

-- Tools that always complain in the same words about a file named by a single letter.
def grumbling (words : List Char) : Workbench where
  project := false
  yaml := false
  tools := ⟨fun _ => none, fun _ => ⟨"", ["t"]⟩, fun _ => some (words.map fun c => c.toNat.toUInt8)⟩
  files := default
  nesting := 9

/-- A line that ends behind its number makes each of the readers fail. -/
theorem output_failure_cut_short :
    (Suppression.readMessages (.text "a") none "a:5").failure ≠ none ∧
    (∃ plan, compilerPlan cCompiler (grumbling "t:5:m".toList).tools .inMemory "int" = .ok plan ∧
      ((Check.runTool (grumbling "t:5:m".toList) plan).run {}).1.failure ≠ none) ∧
    ((Check.checkCode (grumbling "t: line 5".toList) (fun _ => pure .empty) .inMemory 1 false .bash "if").run
      {}).1.failure ≠ none := by
  refine ⟨?_, ?_, ?_⟩
  · obtain ⟨-, messages, -⟩ := output_failure_none_iff (.text "a") (grumbling []) {}
    rw [ne_eq, messages]
    intro whole
    exact whole "a:5" (by decide +kernel) ⟨['5'], 5, by decide +kernel, by decide +kernel, by decide⟩
  · obtain ⟨-, -, compilers, -⟩ := output_failure_none_iff .inMemory (grumbling "t:5:m".toList) {}
    refine ⟨_, rfl, ?_⟩
    rw [ne_eq, compilers cCompiler "int" _ _ "t:5:m".toList rfl rfl (by decide +kernel)]
    intro whole
    exact whole "t:5:m" (by decide +kernel) ⟨"5:m".toList, 5, by decide +kernel, by decide +kernel, by decide +kernel⟩
  · obtain ⟨-, -, -, shell⟩ := output_failure_none_iff .inMemory (grumbling "t: line 5".toList) {}
    rw [ne_eq, shell (fun _ => pure .empty) 1 false "if" _ "t: line 5".toList rfl (by decide +kernel)]
    intro sound
    exact sound "t: line 5" (by decide +kernel) ⟨['5'], by decide +kernel, .inr (by decide)⟩

end MarkupLint.Tool
