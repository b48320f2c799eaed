import MarkupLint.Check
import MarkupLint.Proofs.Suppression
import MarkupLint.Proofs.Text.Lines

set_option autoImplicit false

namespace MarkupLint.Check

open Suppression (kept readMessages readLine)

section Lists

variable {α β : Type}

theorem take_while_filter (fine keep : α → Bool) (pieces : List α)
    (kept : ∀ piece ∈ pieces, fine piece = false → keep piece = true) :
    (pieces.filter keep).takeWhile fine = (pieces.takeWhile fine).filter keep := by
  induction pieces with
  | nil => rfl
  | cons piece rest ih =>
      have later := ih fun other member => kept other (List.mem_cons_of_mem piece member)
      by_cases isFine : fine piece = true
      · by_cases stays : keep piece = true
        · simp [isFine, stays, later]
        · simp [isFine, stays, later]
      · have stays := kept piece List.mem_cons_self (Bool.eq_false_iff.mpr isFine)
        simp [isFine, stays]

-- To filter before or after a change is the same only if both filters agree on every piece: a result too many is one
-- that the second filter takes out, and a result too few cannot be made up for by another one.
theorem filter_map_filter_iff (found : α → Option β) (keep : α → Bool) (wanted : β → Bool) (pieces : List α) :
    (pieces.filter keep).filterMap found = (pieces.filterMap found).filter wanted ↔
      ∀ piece ∈ pieces, ∀ result, found piece = some result → keep piece = wanted result := by
  induction pieces with
  | nil => simp
  | cons piece rest ih =>
      rw [List.forall_mem_cons, ← ih]
      cases here : found piece with
      | none => by_cases stays : keep piece = true <;> simp [here, stays]
      | some result =>
          have only : (∀ other, some result = some other → keep piece = wanted other) ↔ keep piece = wanted result := by simp
          rw [only, List.filterMap_cons_some here]
          cases stays : keep piece with
          | true =>
              rw [List.filter_cons_of_pos stays, List.filterMap_cons_some here]
              by_cases wants : wanted result = true
              · simp [wants]
              · rw [List.filter_cons_of_neg wants]
                refine iff_of_false (fun same => ?_) (fun both => wants both.1.symm)
                have member : result ∈ (rest.filterMap found).filter wanted := same ▸ List.mem_cons_self
                exact wants (List.mem_filter.mp member).2
          | false =>
              rw [List.filter_cons_of_neg (by simp [stays])]
              by_cases wants : wanted result = true
              · rw [List.filter_cons_of_pos wants]
                refine iff_of_false (fun same => ?_) (fun both => by simp [wants] at both)
                have all : ∀ other ∈ (rest.filter keep).filterMap found, wanted other = true := by
                  rw [same]
                  exact List.forall_mem_cons.mpr ⟨wants, fun other member => (List.mem_filter.mp member).2⟩
                have inside : (rest.filter keep).Sublist rest := List.filter_sublist
                have fewer := (inside.filterMap found).filter wanted
                rw [List.filter_eq_self.mpr all, same] at fewer
                exact absurd fewer.length_le (by simp)
              · simp [wants]

end Lists

section Messages

variable (origin : Origin) (pattern : MessagePattern)

theorem kept_some (lines : List String) :
    kept (some pattern) lines = (kept none lines).filter fun line => !pattern.foundIn line := by
  rw [kept, kept, List.filter_filter]
  refine List.filter_congr fun line _ => ?_
  simp [Bool.and_comm]

theorem read_messages_some (text : String) :
    readMessages origin (some pattern) text =
      Report.collect (readLine origin) ((kept none (Text.lines text)).filter fun line => !pattern.foundIn line) := by
  rw [Suppression.read_messages_eq, kept_some]

def EndsReading (line : String) : Prop := Finding.ofLine origin none false line = .error .missingPart

-- The pattern is found in a line exactly if it is found in the message that is read from it.
def SeesAlike (line : String) : Prop :=
  ∀ finding, Finding.ofLine origin none false line = .ok finding → pattern.foundIn line = pattern.foundIn finding.message

instance (line : String) : Decidable (EndsReading origin line) :=
  inferInstanceAs (Decidable (_ = _))

theorem read_line_error_iff (line : String) :
    (∃ failure, readLine origin line = .error failure) ↔ EndsReading origin line := by
  rw [Suppression.read_line_eq, Finding.passing_error_iff, EndsReading]

section Text

variable (text : String)
  (spared : ∀ line ∈ kept none (Text.lines text), EndsReading origin line → pattern.foundIn line = false)
include spared

theorem read_messages_failure :
    (readMessages origin (some pattern) text).failure = (readMessages origin none text).failure := by
  rw [read_messages_some, Suppression.read_messages_eq]
  refine Report.collect_filter_failure _ _ _ fun line member failure fails => ?_
  rw [spared line member ((read_line_error_iff origin line).mp ⟨failure, fails⟩)]
  rfl

theorem read_messages_findings_iff :
    (readMessages origin (some pattern) text).findings =
        (readMessages origin none text).findings.filter (fun finding => !pattern.foundIn finding.message) ↔
      ∀ line ∈ (kept none (Text.lines text)).takeWhile (fun line => ¬ EndsReading origin line),
        SeesAlike origin pattern line := by
  have sparedLines : ∀ line ∈ kept none (Text.lines text), decide (¬ EndsReading origin line) = false →
      (!pattern.foundIn line) = true := by
    intro line member ends
    rw [decide_eq_false_iff_not, Decidable.not_not] at ends
    rw [spared line member ends]
    rfl
  have visible : (readMessages origin (some pattern) text).findings =
      (((kept none (Text.lines text)).takeWhile fun line => ¬ EndsReading origin line).filter
        fun line => !pattern.foundIn line).filterMap fun line => (Finding.ofLine origin none false line).toOption := by
    rw [← take_while_filter _ _ _ sparedLines, ← kept_some]
    exact Suppression.read_messages_findings origin (some pattern) text
  have all : (readMessages origin none text).findings =
      ((kept none (Text.lines text)).takeWhile fun line => ¬ EndsReading origin line).filterMap
        fun line => (Finding.ofLine origin none false line).toOption :=
    Suppression.read_messages_findings origin none text
  rw [visible, all, filter_map_filter_iff]
  refine forall_congr' fun line => imp_congr_right fun _ => forall_congr' fun finding => ?_
  rw [Bool.not_inj_iff]
  cases Finding.ofLine origin none false line <;> simp [Except.toOption]

end Text

theorem lines_plain (text line : String) (member : line ∈ Text.lines text) :
    ∀ c ∈ line.toList, Text.isLineBreak c = false := by
  obtain ⟨own, held, rfl⟩ := List.mem_map.mp member
  rw [String.toList_ofList]
  exact Text.split_lines_mem_plain text.toList own held

theorem lines_single (line : String) (filled : line ≠ "") (plain : ∀ c ∈ line.toList, Text.isLineBreak c = false) :
    Text.lines line = [line] := by
  have chars : line.toList ≠ [] := fun empty => filled (String.ext (by simpa using empty))
  rw [Text.lines, Text.split_lines_whole line.toList chars plain, List.map_singleton, String.ofList_toList]

theorem kept_single (line : String) (filled : line ≠ "") : kept none [line] = [line] := by
  have noNames : Suppression.roleNames [line] = [] := by
    simp [Suppression.roleNames, Suppression.definitionBelow?]
  have unnamed : ∀ found : Option String, (found.map ([] : List String).contains).getD false = false := by
    intro found
    cases found <;> rfl
  have stays : Suppression.isDropped [] line = false := by simp [Suppression.isDropped, unnamed]
  simp [kept, noNames, stays, filled]

theorem sees_alike_of_rule (line : String) (filled : line ≠ "")
    (plain : ∀ c ∈ line.toList, Text.isLineBreak c = false)
    (rule : readMessages origin (some pattern) line = withoutIgnored (some pattern) (readMessages origin none line)) :
    SeesAlike origin pattern line ∧ (EndsReading origin line → pattern.foundIn line = false) := by
  have single : kept none (Text.lines line) = [line] := by rw [lines_single line filled plain, kept_single line filled]
  by_cases ends : EndsReading origin line
  · refine ⟨fun finding reads => by simp [EndsReading, reads] at ends, fun _ => ?_⟩
    obtain ⟨failure, fails⟩ := (read_line_error_iff origin line).mpr ends
    have failed : (readMessages origin none line).failure = some failure := by
      rw [Suppression.read_messages_eq, single, Report.collect_cons_error _ line [] failure fails]
      rfl
    by_contra seen
    have silent : (readMessages origin (some pattern) line).failure = none := by
      rw [read_messages_some, single, List.filter_cons_of_neg (by simpa using seen)]
      rfl
    rw [rule] at silent
    exact absurd (failed.symm.trans silent) (by simp)
  · have spared : ∀ other ∈ kept none (Text.lines line), EndsReading origin other → pattern.foundIn other = false := by
      intro other member endsOther
      rw [single, List.mem_singleton] at member
      exact absurd (member ▸ endsOther) ends
    have alike := (read_messages_findings_iff origin pattern line spared).mp (congrArg Report.findings rule)
    refine ⟨alike line ?_, fun held => absurd held ends⟩
    simp [single, ends]

/-- Findings in code are taken out by their message. Messages about the markup are taken out by their whole line: what
is left is what the rule for code would leave exactly if the pattern sees the lines that are read and their messages
alike, and it is the same for all texts exactly if the pattern does so on every line. -/
theorem ignoring_rule_iff :
    (∀ report, withoutIgnored (some pattern) report =
      ⟨report.findings.filter fun finding => !pattern.foundIn finding.message, report.failure⟩) ∧
    (∀ text, readMessages origin (some pattern) text =
      Report.collect (readLine origin) ((kept none (Text.lines text)).filter fun line => !pattern.foundIn line)) ∧
    (∀ text, (∀ line ∈ kept none (Text.lines text), EndsReading origin line → pattern.foundIn line = false) →
      ((readMessages origin (some pattern) text).findings =
          (withoutIgnored (some pattern) (readMessages origin none text)).findings ↔
        ∀ line ∈ (kept none (Text.lines text)).takeWhile (fun line => ¬ EndsReading origin line),
          SeesAlike origin pattern line)) ∧
    ((∀ text, readMessages origin (some pattern) text =
        withoutIgnored (some pattern) (readMessages origin none text)) ↔
      ∀ line : String, (∀ c ∈ line.toList, Text.isLineBreak c = false) →
        SeesAlike origin pattern line ∧ (EndsReading origin line → pattern.foundIn line = false)) := by
  refine ⟨fun report => rfl, read_messages_some origin pattern, read_messages_findings_iff origin pattern, ?_, ?_⟩
  · intro rule line plain
    by_cases filled : line = ""
    · have foreign := Finding.of_line_empty origin none false
      subst filled
      exact ⟨fun finding reads => by simp [foreign] at reads, fun ends => by simp [EndsReading, foreign] at ends⟩
    · exact sees_alike_of_rule origin pattern line filled plain (rule line)
  · intro alike text
    have plain : ∀ line ∈ kept none (Text.lines text), ∀ c ∈ line.toList, Text.isLineBreak c = false :=
      fun line member => lines_plain text line ((Suppression.mem_kept_iff none _ line).mp member).1
    have spared : ∀ line ∈ kept none (Text.lines text), EndsReading origin line → pattern.foundIn line = false :=
      fun line member => (alike line (plain line member)).2
    have findings := (read_messages_findings_iff origin pattern text spared).mpr fun line member =>
      (alike line (plain line ((List.takeWhile_sublist _).subset member))).1
    have failure := read_messages_failure origin pattern text spared
    exact congr (congrArg Report.mk findings) failure

end Messages

def anchored : KnownPattern := ⟨"^m", .both .textStart (.both (.char 'm') .empty)⟩

/-- The pattern is found in the message, but not in the line, which starts with the name of its text. -/
theorem ignoring_rule_anchored :
    KnownPattern.ofString? "^m" = some anchored ∧
      (readMessages (.text "a") none "a:2:m").findings = [⟨"a", 2, "m"⟩] ∧ anchored.compiled.foundIn "m" = true ∧
      (readMessages (.text "a") (some anchored.compiled) "a:2:m").findings ≠
        (withoutIgnored (some anchored.compiled) (readMessages (.text "a") none "a:2:m")).findings := by
  refine ⟨by decide +kernel, by decide +kernel, by decide +kernel, fun same => ?_⟩
  obtain ⟨-, -, perText, -⟩ := ignoring_rule_iff (.text "a") anchored.compiled
  have alike := (perText "a:2:m" (by decide +kernel)).mp same "a:2:m" (by decide +kernel)
  exact absurd (alike ⟨"a", 2, "m"⟩ (by decide +kernel)) (by decide +kernel)

end MarkupLint.Check
