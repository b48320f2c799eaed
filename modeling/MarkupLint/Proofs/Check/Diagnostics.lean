import MarkupLint.Proofs.Code.Beginning
import MarkupLint.Proofs.Code.Diagnosis
import MarkupLint.Proofs.Tool.Complaints

set_option autoImplicit false

namespace MarkupLint.Tool

open Finding (lineStart)

section Complaint

variable (origin : Origin) (file : Path) (number : Nat) (words : String)
  (short : (Nat.toDigits 10 number).length ≤ Text.maxDigits)

include short

theorem read_shell_line_complaint :
    readShellLine origin file (toString file ++ ": line " ++ toString number ++ ":" ++ words) =
      .ok (some ⟨origin.name, (number : Int) - 1, Text.strip words⟩) := by
  have own : Text.dropStart? (shellStart file) (toString file ++ ": line " ++ toString number ++ ":" ++ words).toList =
      some ((toString (number : Int)).toList ++ ':' :: words.toList) := by
    rw [Text.drop_start_some_iff, shellStart, Text.to_string_natural]
    simp
  have absent := Text.to_string_absent number ':' (by decide) (by decide)
  rw [read_shell_line_own origin file _ _ own, Finding.number_text_written, Text.read_integer_written,
    Int.natAbs_natCast, if_neg (Nat.not_lt.mpr short), Text.split_at_most_cut ':' 0 _ _ absent]
  rfl

theorem read_compiler_line_complaint (column : String) (absent : ':' ∉ column.toList) :
    readCompilerLine origin file (toString file ++ ":" ++ toString number ++ ":" ++ column ++ ":" ++ words) =
      .ok (some ⟨origin.name, number, Text.strip words⟩) := by
  have spelled : (toString file ++ ":" ++ toString number ++ ":" ++ column ++ ":" ++ words).toList =
      lineStart origin (some file) ++ ((toString (number : Int)).toList ++ ':' :: (column.toList ++ ':' :: words.toList)) := by
    rw [lineStart, Text.to_string_natural]
    simp
  rw [read_compiler_line_eq,
    Finding.of_line_column origin (some file) number words.toList _ short column.toList absent spelled]
  rfl

end Complaint

end MarkupLint.Tool

namespace MarkupLint.Check

-- A tool that fails and says a line on its error stream, after lines that can all be read.
def Complains (bench : Workbench) (plan : Tool.Plan) (complaint : String) : Prop :=
  ∃ stderr text before after, bench.tools.run plan.call = some stderr ∧ Text.decodeUtf8 stderr = .ok text ∧
    Text.lines (String.ofList text) = before ++ complaint :: after ∧ ∀ line ∈ before, (plan.read line).isOk = true

theorem run_tool_finds (bench : Workbench) (plan : Tool.Plan) (complaint : String) (finding : Finding)
    (session : Session) (complains : Complains bench plan complaint)
    (reads : plan.read complaint = .ok (some finding)) :
    finding ∈ ((runTool bench plan).run session).1.findings := by
  obtain ⟨stderr, text, before, after, complained, decoded, split, readable⟩ := complains
  have report : ((runTool bench plan).run session).1 = Tool.readComplaints plan.read stderr := by
    simp only [runTool, complained]
    rfl
  rw [report, Tool.read_complaints_text plan.read stderr text decoded, split, Report.collect_findings,
    List.takeWhile_append_of_pos readable, List.takeWhile_cons_of_pos (by rw [reads]; rfl), List.mem_filterMap]
  exact ⟨complaint, by simp, by rw [reads]; rfl⟩

-- Something wrong with some code: its line, counted from one, what is said about it, and the piece of the code that
-- is shown below.
structure Diagnostic where
  line : Nat
  message : String
  shown : List Char

section Block

variable (bench : Workbench) (nested : Request → Checking Report) (origin : Origin) (reportRank : Nat)
  (warnUnknown : Bool) (session : Session)

-- Who finds a fault, and the words that place it at a line. The number of a line can only be read back if it has
-- not too many digits.
inductive Places (code : String) : Code.Language → Diagnostic → Prop
  | python (line : Nat) (message : String) (wrong : Script.diagnose code = some ⟨line, message⟩) :
      Places code .python ⟨line, message, []⟩
  | json (fault : Json.Fault) (left : Nat) (before : List Char)
      (wrong : Json.read bench.nesting code.toList = .error (.fault fault left))
      (start : before = code.toList.take (code.toList.length - left)) :
      Places code .json ⟨Json.lineAfter before, fault.message before, []⟩
  | xml (fault : Xml.Fault) (wrong : Xml.fault? code.toList = some fault) :
      Places code .xml
        ⟨(Xml.position (code.toList.length - fault.left) 1 0 code.toList).1, fault.message code.toList, []⟩
  | yaml (activity : Option Yaml.Activity) (start : Option Yaml.Mark) (cause : Yaml.Cause) (mark : Yaml.Mark)
      (known : bench.yaml = true) (wrong : Yaml.fault? code.toList = some (.marked activity start cause mark)) :
      Places code .yaml ⟨mark.line + 1, Yaml.Fault.message code.toList (.marked activity start cause mark),
        (mark.excerpt code.toList).toList⟩
  | doctest (line : Nat) (message : String) (wrong : Code.Doctest.diagnose code = some ⟨line, message⟩) :
      Places code .doctest ⟨line, message, []⟩
  | rst (line : Nat) (message name : String)
      (wrong : ⟨name, line, message⟩ ∈
        ((nested { source := code, origin, reportRank, warnUnknown }).run session).1.findings) :
      Places code .rst ⟨line, message, []⟩
  | bash (line : Nat) (words : String) (short : (Nat.toDigits 10 line).length ≤ Text.maxDigits)
      (wrong : Complains bench (Tool.bashPlan bench.tools origin code)
        (toString (bench.tools.file ".bash") ++ ": line " ++ toString line ++ ":" ++ words)) :
      Places code .bash ⟨line, Text.strip words, []⟩
  | c (line : Nat) (column words : String) (plan : Tool.Plan)
      (short : (Nat.toDigits 10 line).length ≤ Text.maxDigits) (single : ':' ∉ column.toList)
      (planned : Tool.compilerPlan Tool.cCompiler bench.tools origin code = .ok plan)
      (wrong : Complains bench plan
        (toString (bench.tools.file ".c") ++ ":" ++ toString line ++ ":" ++ column ++ ":" ++ words)) :
      Places code .c ⟨line, Text.strip words, []⟩
  | cpp (line : Nat) (column words : String) (plan : Tool.Plan)
      (short : (Nat.toDigits 10 line).length ≤ Text.maxDigits) (single : ':' ∉ column.toList)
      (planned : Tool.compilerPlan Tool.cppCompiler bench.tools origin (code ++ "\n") = .ok plan)
      (wrong : Complains bench plan
        (toString (bench.tools.file ".cpp") ++ ":" ++ toString line ++ ":" ++ column ++ ":" ++ words)) :
      Places code .cpp ⟨line, Text.strip words, []⟩

def lineRead (language : Code.Language) (diagnostic : Diagnostic) : Int :=
  match language with
  | .bash => diagnostic.line - 1
  | .yaml => Code.lineInMessage diagnostic.shown
  | _ => diagnostic.line

theorem of_diagnosis_finds (found : Code.Diagnosis) :
    ⟨origin.name, found.line, found.message⟩ ∈ (ofDiagnosis origin (.ok (some found))).findings :=
  List.mem_singleton_self _

theorem run_compiler_finds (compiler : Tool.Compiler) (code : String) (plan : Tool.Plan) (line : Nat)
    (column words : String) (planned : Tool.compilerPlan compiler bench.tools origin code = .ok plan)
    (short : (Nat.toDigits 10 line).length ≤ Text.maxDigits) (single : ':' ∉ column.toList)
    (complains : Complains bench plan
      (toString (bench.tools.file compiler.extension) ++ ":" ++ toString line ++ ":" ++ column ++ ":" ++ words)) :
    ⟨origin.name, line, Text.strip words⟩ ∈ ((runTool bench plan).run session).1.findings := by
  refine run_tool_finds bench plan _ _ session complains ?_
  rw [Tool.compiler_plan_read compiler bench.tools origin code plan planned]
  exact Tool.read_compiler_line_complaint origin _ line words short column single

theorem check_code_finds (code : String) (language : Code.Language) (diagnostic : Diagnostic)
    (placed : Places bench nested origin reportRank warnUnknown session code language diagnostic) :
    ∃ name, ⟨name, lineRead language diagnostic, diagnostic.message⟩ ∈
      ((checkCode bench nested origin reportRank warnUnknown language code).run session).1.findings := by
  cases placed with
  | python line message wrong =>
      refine ⟨origin.name, ?_⟩
      change _ ∈ (ofDiagnosis origin (.ok (Script.diagnose code))).findings
      rw [wrong]
      exact of_diagnosis_finds origin _
  | json fault left before wrong start =>
      refine ⟨origin.name, ?_⟩
      have found : Code.diagnoseJson bench.nesting code = .ok (some (Code.ofMessage (fault.message before))) := by
        rw [Code.diagnoseJson, wrong, start]
      change _ ∈ (ofDiagnosis origin (Code.diagnoseJson bench.nesting code)).findings
      rw [found, ← Code.json_message_line fault before]
      exact of_diagnosis_finds origin _
  | xml fault wrong =>
      refine ⟨origin.name, ?_⟩
      have found : Code.diagnoseXml code = some (Code.ofMessage (fault.message code.toList)) := by
        rw [Code.diagnoseXml, wrong]
        rfl
      change _ ∈ (ofDiagnosis origin (.ok (Code.diagnoseXml code))).findings
      rw [found, ← Code.xml_message_line fault code.toList]
      exact of_diagnosis_finds origin _
  | yaml activity start cause mark known wrong =>
      refine ⟨origin.name, ?_⟩
      have found : Code.diagnoseYaml code =
          .ok (some (Code.ofMessage (Yaml.Fault.message code.toList (.marked activity start cause mark)))) := by
        rw [Code.diagnoseYaml, wrong]
      change _ ∈ (if bench.yaml then ofDiagnosis origin (Code.diagnoseYaml code) else .empty).findings
      rw [if_pos known, found, lineRead, ← Code.yaml_message_line code.toList activity start cause mark]
      exact of_diagnosis_finds origin _
  | doctest line message wrong =>
      refine ⟨origin.name, ?_⟩
      change _ ∈ (ofDiagnosis origin (.ok (Code.Doctest.diagnose code))).findings
      rw [wrong]
      exact of_diagnosis_finds origin _
  | rst line message name wrong => exact ⟨name, wrong⟩
  | bash line words short wrong =>
      exact ⟨origin.name, run_tool_finds bench _ _ _ session wrong
        (Tool.read_shell_line_complaint origin _ line words short)⟩
  | c line column words plan short single planned wrong =>
      refine ⟨origin.name, ?_⟩
      simp only [checkCode, planned]
      exact run_compiler_finds bench origin session _ code plan line column words planned short single wrong
  | cpp line column words plan short single planned wrong =>
      refine ⟨origin.name, ?_⟩
      simp only [checkCode, planned]
      exact run_compiler_finds bench origin session _ _ plan line column words planned short single wrong

/-- A fault in a line of a block is reported at the line of the document that shows it, in every language but two. The
complaints of a shell are reported a line too high. Those about a YAML text are not read for their line at all: they
are reported above the block, unless the code that they show names a line in the words of a message. -/
theorem check_block_lines_iff (source : String) (block : Code.Block) (first : Int) (diagnostic : Diagnostic)
    (stands : block.line.isSome = true)
    (begins : Code.beginning bench.project source block.raw block.line block.attributes block.byClass = .ok first)
    (placed : Places bench nested origin reportRank warnUnknown session block.raw block.language diagnostic) :
    ∃ finding ∈
        ((checkBlock bench nested origin reportRank warnUnknown source block).run session).1.findings,
      finding.message = "(" ++ block.language.name ++ ") " ++ diagnostic.message ∧
      (finding.line = first + diagnostic.line - 1 ↔ block.language ≠ .bash ∧
        (block.language = .yaml → Code.lineInMessage diagnostic.shown = diagnostic.line)) ∧
      (block.language = .bash → finding.line = first + diagnostic.line - 2) ∧
      (block.language = .yaml → ¬ ": line".toList <:+: diagnostic.shown → finding.line = first - 1) := by
  obtain ⟨name, found⟩ := check_code_finds bench nested origin reportRank warnUnknown session block.raw block.language
    diagnostic placed
  have report := check_block_run bench nested origin reportRank warnUnknown source block session stands
  rw [begins] at report
  refine ⟨movedTo block first ⟨name, lineRead block.language diagnostic, diagnostic.message⟩, ?_, rfl, ?_⟩
  · rw [report]
    exact List.mem_map_of_mem found
  · change (first + (lineRead block.language diagnostic - 1) = _ ↔ _) ∧ (_ → first + (lineRead _ diagnostic - 1) = _) ∧
      (_ → _ → first + (lineRead _ diagnostic - 1) = _)
    cases block.language with
    | bash =>
        dsimp only [lineRead]
        exact ⟨iff_of_false (by omega) fun right => right.1 rfl, fun _ => by omega, nofun⟩
    | yaml =>
        dsimp only [lineRead]
        refine ⟨⟨fun right => ⟨nofun, fun _ => by omega⟩, fun named => ?_⟩, nofun, fun _ absent => ?_⟩
        · have own := named.2 rfl
          omega
        · rw [Code.line_in_message_absent diagnostic.shown absent]
          omega
    | _ =>
        dsimp only [lineRead]
        exact ⟨iff_of_true (by omega) ⟨nofun, nofun⟩, nofun, nofun⟩

end Block

def markOf : Yaml.Fault → Option Yaml.Mark
  | .marked _ _ _ mark => some mark
  | _ => none

-- A block of two lines, the second one wrong.
def unfinishedBlock (language : Code.Language) (raw : String) : Code.Block := ⟨language, raw, some 5, 0, false⟩

def unfinishedSource (language : Code.Language) (first second : String) : String :=
  ".. code:: " ++ language.name ++ "\n\n   " ++ first ++ "\n   " ++ second ++ "\n\n"

/-- The wrong line is the fourth of the document. -/
theorem check_block_lines_missed :
    let shell := Tool.grumbling "t: line 2: unexpected end".toList
    let reader := { Tool.grumbling [] with yaml := true }
    let alone := fun _ => pure .empty
    (∃ finding ∈ ((checkBlock shell alone .inMemory 1 false (unfinishedSource .bash "echo" "if")
      (unfinishedBlock .bash "echo\nif")).run {}).1.findings, finding.message = "(bash) unexpected end" ∧ finding.line = 3) ∧
    ∃ finding ∈ ((checkBlock reader alone .inMemory 1 false (unfinishedSource .yaml "a: b" "c: [")
      (unfinishedBlock .yaml "a: b\nc: [")).run {}).1.findings, finding.line = 2 := by
  intro shell reader alone
  constructor
  · have complains : Complains shell (Tool.bashPlan shell.tools .inMemory "echo\nif") "t: line 2: unexpected end" :=
      ⟨_, "t: line 2: unexpected end".toList, [], [], rfl, by decide +kernel, by decide +kernel, nofun⟩
    obtain ⟨finding, found, named, -, high, -⟩ := check_block_lines_iff shell alone .inMemory 1 false {}
      (unfinishedSource .bash "echo" "if") (unfinishedBlock .bash "echo\nif") 3 ⟨2, "unexpected end", []⟩ rfl
      (by decide +kernel) (.bash 2 " unexpected end" (by decide) complains)
    exact ⟨finding, found, named, high rfl⟩
  · have marked : (Yaml.fault? "a: b\nc: [".toList).bind markOf = some ⟨9, 1, 4⟩ := by decide +kernel
    obtain ⟨fault, wrong, placed⟩ := Option.bind_eq_some_iff.mp marked
    cases fault with
    | character found index => cases placed
    | failed cause => cases placed
    | marked activity start cause mark =>
        obtain ⟨finding, found, -, -, -, above⟩ := check_block_lines_iff reader alone .inMemory 1 false {}
          (unfinishedSource .yaml "a: b" "c: [") (unfinishedBlock .yaml "a: b\nc: [") 3 _ rfl (by decide +kernel)
          (.yaml activity start cause mark rfl wrong)
        cases placed
        refine ⟨finding, found, above rfl ?_⟩
        change ¬ ": line".toList <:+: (Yaml.Mark.excerpt ⟨9, 1, 4⟩ "a: b\nc: [".toList).toList
        rw [← Text.contains_iff]
        decide +kernel

end MarkupLint.Check
