import MarkupLint.Check
import MarkupLint.Pattern.Reader
import MarkupLint.Proofs.Pattern.Matching
import MarkupLint.Proofs.Settings.Override

set_option autoImplicit false

namespace MarkupLint.Pattern

theorem choice_append (last : Pattern) (later earlier : List Pattern) :
    choiceOf last (later ++ earlier) = choiceOf (choiceOf last later) earlier := by
  induction later generalizing last with
  | nil => rfl
  | cons previous rest ih => exact ih (.either previous last)

theorem matches_choice (last : Pattern) (earlier : List Pattern) (before inside behind : List Char) :
    Matches (choiceOf last earlier) before inside behind ↔
      Matches last before inside behind ∨ ∃ other ∈ earlier, Matches other before inside behind := by
  induction earlier generalizing last with
  | nil => simp [choiceOf]
  | cons previous rest ih =>
      rw [choiceOf, ih, Matches, List.exists_mem_cons_iff, or_comm (a := Matches previous before inside behind), or_assoc]

def Group.under (group : Group) (earlier : List Pattern) : Group :=
  { group with alternatives := group.alternatives ++ earlier }

def groupsUnder (earlier : List Pattern) : List Group → List Group
  | [] => []
  | [group] => [group.under earlier]
  | group :: outer => group :: groupsUnder earlier outer

namespace Reader

def under (reader : Reader) (earlier : List Pattern) : Reader :=
  match reader.outer with
  | [] => { reader with group := reader.group.under earlier }
  | outer => { reader with outer := groupsUnder earlier outer }

section Steps

variable (reader : Reader) (earlier : List Pattern)

@[simp]
theorem under_mode : (reader.under earlier).mode = reader.mode := by
  rw [under]
  split <;> rfl

@[simp]
theorem enter_under (mode : Mode) : (reader.under earlier).enter mode = (reader.enter mode).under earlier := by
  obtain ⟨outer, group, mode⟩ := reader
  cases outer <;> rfl

@[simp]
theorem push_under (item : Pattern) (follow : Follow) :
    (reader.under earlier).push item follow = (reader.push item follow).under earlier := by
  obtain ⟨outer, group, mode⟩ := reader
  cases outer <;> rfl

@[simp]
theorem bar_under : (reader.under earlier).bar = reader.bar.under earlier := by
  obtain ⟨outer, group, mode⟩ := reader
  cases outer <;> rfl

@[simp]
theorem open_group_under : (reader.under earlier).openGroup = reader.openGroup.under earlier := by
  obtain ⟨outer, group, mode⟩ := reader
  cases outer <;> rfl

@[simp]
theorem change_under (kind : Follow) (change : Pattern → Pattern) (follow : Follow) :
    (reader.under earlier).change? kind change follow = (reader.change? kind change follow).map (·.under earlier) := by
  obtain ⟨outer, group, mode⟩ := reader
  obtain ⟨alternatives, items⟩ := group
  cases items with
  | nil => cases outer <;> rfl
  | cons item rest =>
      by_cases allowed : item.2 = kind
      · cases outer <;> simp [change?, under, Group.under, allowed]
      · cases outer <;> simp [change?, under, Group.under, allowed]

@[simp]
theorem close_group_under :
    (reader.under earlier).closeGroup? = reader.closeGroup?.map (·.under earlier) := by
  obtain ⟨outer, group, mode⟩ := reader
  match outer with
  | [] => rfl
  | [_] => rfl
  | _ :: _ :: _ => rfl

@[simp]
theorem push_char_under (c : Char) : (reader.under earlier).pushChar c = (reader.pushChar c).under earlier :=
  push_under reader earlier _ _

@[simp]
theorem repeat_under (least : Nat) (extra : Option Nat) :
    (reader.under earlier).repeat? least extra = (reader.repeat? least extra).map (·.under earlier) :=
  change_under reader earlier _ _ _

@[simp]
theorem question_under : (reader.under earlier).question? = reader.question?.map (·.under earlier) := by
  rw [question?, question?, repeat_under, change_under]
  cases reader.repeat? 0 (some 1) <;> rfl

@[simp]
theorem push_chars_under (text : List Char) :
    text.foldl pushChar (reader.under earlier) = (text.foldl pushChar reader).under earlier := by
  induction text generalizing reader with
  | nil => rfl
  | cons c rest ih => rw [List.foldl_cons, push_char_under, ih, List.foldl_cons]

@[simp]
theorem settle_under : (reader.under earlier).settle = reader.settle.under earlier := by
  rw [settle, settle, under_mode]
  split
  · exact push_chars_under reader earlier _
  · exact push_char_under reader earlier _
  · rfl

@[simp]
theorem plain_under (c : Char) : (reader.under earlier).plain? c = (reader.plain? c).map (·.under earlier) := by
  simp [plain?, apply_ite (Option.map (under · earlier))]

@[simp]
theorem escaped_under (c : Char) : (reader.under earlier).escaped? c = (reader.escaped? c).map (·.under earlier) := by
  rw [escaped?, escaped?, Option.map_map]
  refine congrArg (Option.map · (escape? false c)) (funext fun escape => ?_)
  cases escape with
  | part part =>
      cases part with
      | char c => exact push_char_under reader earlier c
      | kind item => exact push_under reader earlier _ _
  | anchor pattern => exact push_under reader earlier _ _
  | code base value left exact => exact enter_under reader earlier _

@[simp]
theorem add_part_under (current : OpenClass) (part : ClassPart) :
    (reader.under earlier).addPart? current part = (reader.addPart? current part).map (·.under earlier) := by
  rw [addPart?, addPart?, Option.map_map]
  exact congrArg (Option.map · (current.add? part)) (funext fun next => enter_under reader earlier _)

@[simp]
theorem in_class_under (current : OpenClass) (c : Char) :
    (reader.under earlier).inClass? current c = (reader.inClass? current c).map (·.under earlier) := by
  simp [inClass?, apply_ite (Option.map (under · earlier))]

@[simp]
theorem class_escaped_under (current : OpenClass) (c : Char) :
    (reader.under earlier).classEscaped? current c = (reader.classEscaped? current c).map (·.under earlier) := by
  rw [classEscaped?, classEscaped?, Option.map_bind]
  refine congrArg (Option.bind (escape? true c)) (funext fun escape => ?_)
  cases escape with
  | part part => exact add_part_under reader earlier current part
  | anchor pattern => rfl
  | code base value left exact => exact congrArg some (enter_under reader earlier _)

@[simp]
theorem end_code_under (base value : Nat) (current : Option OpenClass) :
    (reader.under earlier).endCode? base value current = (reader.endCode? base value current).map (·.under earlier) := by
  cases current with
  | none =>
      rw [endCode?, endCode?, Option.map_map]
      exact congrArg (Option.map · (codeChar? base value)) (funext fun c => push_char_under reader earlier c)
  | some current =>
      rw [endCode?, endCode?, Option.map_bind]
      exact congrArg (Option.bind (codeChar? base value)) (funext fun c => add_part_under reader earlier current _)

@[simp]
theorem after_code_under (base value : Nat) (c : Char) (current : Option OpenClass) :
    (reader.under earlier).afterCode? base value c current =
      (reader.afterCode? base value c current).map (·.under earlier) := by
  cases current with
  | none => rw [afterCode?, afterCode?, settle_under, plain_under]
  | some current =>
      rw [afterCode?, afterCode?, Option.map_bind]
      refine congrArg (Option.bind (codeChar? base value)) (funext fun last => ?_)
      rw [Function.comp_apply, Option.map_bind]
      exact congrArg (Option.bind (current.add? (.char last))) (funext fun next => in_class_under reader earlier next c)

@[simp]
theorem in_code_under (current : Option OpenClass) (base value left : Nat) (exact : Bool) (c : Char) :
    (reader.under earlier).inCode? current base value left exact c =
      (reader.inCode? current base value left exact c).map (·.under earlier) := by
  simp [inCode?, apply_ite (Option.map (under · earlier))]

@[simp]
theorem in_braces_under (least : List Char) (most : Option (List Char)) (c : Char) :
    (reader.under earlier).inBraces? least most c = (reader.inBraces? least most c).map (·.under earlier) := by
  simp only [inBraces?, enter_under, settle_under, plain_under, repeat_under, Option.map_bind,
    apply_ite (Option.map (under · earlier)), Option.map_some]
  rfl

@[simp]
theorem step_under (c : Char) : (reader.under earlier).step? c = (reader.step? c).map (·.under earlier) := by
  rw [step?, step?, under_mode]
  cases reader.mode with
  | plain => exact plain_under reader earlier c
  | escape => exact escaped_under reader earlier c
  | opened | openedMark | classStart => simp [apply_ite (Option.map (under · earlier))]
  | classBody current => exact in_class_under reader earlier current c
  | classEscape current => exact class_escaped_under reader earlier current c
  | code current base value left exact => exact in_code_under reader earlier current base value left exact c
  | braces least most => exact in_braces_under reader earlier least most c

@[simp]
theorem run_under (text : List Char) :
    (reader.under earlier).run? text = (reader.run? text).map (·.under earlier) := by
  induction text generalizing reader with
  | nil => rfl
  | cons c rest ih =>
      rw [run?, run?, step_under]
      cases reader.step? c with
      | none => rfl
      | some next => exact ih next

theorem finish_under : (reader.under earlier).finish? = reader.finish?.map (choiceOf · earlier) := by
  rw [finish?, finish?, settle_under]
  generalize reader.settle = settled
  obtain ⟨outer, group, mode⟩ := settled
  cases outer with
  | nil =>
      have pattern : (group.under earlier).pattern = choiceOf group.pattern earlier := choice_append _ _ _
      simp only [under, pattern, apply_ite (Option.map (choiceOf · earlier)), Option.map_some, Option.map_none]
      rfl
  | cons inner rest =>
      have stillOpen : (groupsUnder earlier (inner :: rest)).isEmpty = false := by cases rest <;> rfl
      simp [under, stillOpen]

theorem finish_iff (pattern : Pattern) :
    reader.finish? = some pattern ↔
      reader.settle.outer = [] ∧ reader.settle.mode = .plain ∧ reader.settle.group.pattern = pattern := by
  simp [finish?, and_assoc]

theorem step_bar (settled : reader.settle.mode = .plain) : reader.step? '|' = some reader.settle.bar := by
  obtain ⟨outer, group, mode⟩ := reader
  cases mode with
  | plain => rfl
  | escape | opened | openedMark | classStart | classBody | classEscape => cases settled
  | braces least most =>
      have text : Text.isAsciiDigit '|' = false := by decide
      simp only [step?, inBraces?, text]
      rfl
  | code current base value left exact =>
      cases current with
      | some current => cases settled
      | none =>
          cases exact with
          | true => cases settled
          | false =>
              have text : isCodeDigit base '|' = false := by
                rw [isCodeDigit, show Text.isHexDigit '|' = false by decide, Bool.false_and]
              simp only [step?, inCode?, text]
              rfl

-- Behind a bar nothing is open, and what was read before it is known by its alternatives alone.
theorem step_bar_finished (pattern : Pattern) (finished : reader.finish? = some pattern) :
    ∃ earlier, reader.step? '|' = some (new.under earlier) ∧ ∀ before inside behind,
      (∃ other ∈ earlier, Matches other before inside behind) ↔ Matches pattern before inside behind := by
  obtain ⟨outermost, plain, rfl⟩ := (reader.finish_iff pattern).mp finished
  refine ⟨sequenceOf reader.settle.group.items :: reader.settle.group.alternatives, ?_, fun before inside behind => ?_⟩
  · rw [reader.step_bar plain, bar, outermost]
    rfl
  · rw [Group.pattern, matches_choice, List.exists_mem_cons_iff]

theorem run_append (first second : List Char) :
    reader.run? (first ++ second) = (reader.run? first).bind (·.run? second) := by
  induction first generalizing reader with
  | nil => rfl
  | cons c rest ih =>
      rw [List.cons_append, run?, run?]
      cases reader.step? c with
      | none => rfl
      | some next => exact ih next

end Steps

end Reader

def Reads (text : List Char) (pattern : Pattern) : Prop := (Reader.new.run? text).bind Reader.finish? = some pattern

theorem reads_bar (first second : List Char) (one two : Pattern) (readsFirst : Reads first one)
    (readsSecond : Reads second two) :
    ∃ joined, Reads (first ++ '|' :: second) joined ∧ ∀ before inside behind,
      Matches joined before inside behind ↔ Matches one before inside behind ∨ Matches two before inside behind := by
  obtain ⟨reader, run, finished⟩ := Option.bind_eq_some_iff.mp readsFirst
  obtain ⟨earlier, stepped, alternatives⟩ := reader.step_bar_finished one finished
  refine ⟨choiceOf two earlier, ?_, fun before inside behind => ?_⟩
  · obtain ⟨last, lastRun, lastFinished⟩ := Option.bind_eq_some_iff.mp readsSecond
    have whole : Reader.new.run? (first ++ '|' :: second) = some (last.under earlier) := by
      rw [Reader.run_append, run, Option.bind_some, Reader.run?, stepped]
      exact (Reader.new.run_under earlier second).trans (by rw [lastRun]; rfl)
    rw [Reads, whole, Option.bind_some, Reader.finish_under, lastFinished]
    rfl
  · rw [matches_choice, alternatives, or_comm]

end MarkupLint.Pattern

namespace MarkupLint.KnownPattern

open Pattern (Matches Reads)

theorem of_string_iff (entry : KnownPattern) (text : String) :
    ofString? text = some entry ↔ entry.text = text ∧ Reads text.toList entry.pattern := by
  obtain ⟨own, pattern⟩ := entry
  simp only [ofString?, Option.map_eq_some_iff, KnownPattern.mk.injEq]
  constructor
  · rintro ⟨_, reads, rfl, rfl⟩
    exact ⟨rfl, reads⟩
  · rintro ⟨rfl, reads⟩
    exact ⟨_, reads, rfl, rfl⟩

theorem found_in_iff (known : KnownPattern) (message : String) : known.compiled.foundIn message = true ↔
    ∃ before inside behind, message.toList = before ++ inside ++ behind ∧ Matches known.pattern before inside behind :=
  Pattern.found_in_iff known.pattern message

theorem of_string_joined (entries : List KnownPattern) (filled : entries ≠ [])
    (valid : ∀ entry ∈ entries, ofString? entry.text = some entry) :
    ∃ joined, ofString? (String.intercalate "|" (entries.map text)) = some joined ∧ ∀ before inside behind,
      Matches joined.pattern before inside behind ↔ ∃ entry ∈ entries, Matches entry.pattern before inside behind := by
  have reads : ∃ pattern, Reads (List.intercalate ['|'] (entries.map (·.text.toList))) pattern ∧
      ∀ before inside behind, Matches pattern before inside behind ↔
        ∃ entry ∈ entries, Matches entry.pattern before inside behind := by
    induction entries with
    | nil => exact absurd rfl filled
    | cons entry rest ih =>
        have own := ((of_string_iff entry _).mp (valid entry List.mem_cons_self)).2
        cases rest with
        | nil => exact ⟨entry.pattern, by rwa [List.map_singleton, List.intercalate_singleton], by simp⟩
        | cons next others =>
            obtain ⟨pattern, readsRest, matchesRest⟩ :=
              ih (List.cons_ne_nil _ _) fun other member => valid other (List.mem_cons_of_mem entry member)
            obtain ⟨joined, readsJoined, matchesJoined⟩ := Pattern.reads_bar _ _ _ _ own readsRest
            refine ⟨joined, ?_, fun before inside behind => ?_⟩
            · rwa [List.map_cons, List.map_cons, List.intercalate_cons_cons, List.append_assoc]
            · simp only [matchesJoined, matchesRest, List.exists_mem_cons_iff]
  obtain ⟨pattern, readsJoined, matchesJoined⟩ := reads
  refine ⟨⟨String.intercalate "|" (entries.map text), pattern⟩, (of_string_iff _ _).mpr ⟨rfl, ?_⟩, matchesJoined⟩
  rw [String.toList_intercalate, List.map_map]
  exact readsJoined

end MarkupLint.KnownPattern

namespace MarkupLint.Settings

open Check (withoutIgnored)
open Pattern (Matches)

def withoutEach (entries : List KnownPattern) (report : Report) : Report :=
  entries.foldl (fun report entry => withoutIgnored (some entry.compiled) report) report

theorem without_each_eq (entries : List KnownPattern) (report : Report) :
    withoutEach entries report = report.filter fun finding => !entries.any (·.compiled.foundIn finding.message) := by
  induction entries generalizing report with
  | nil => simp [withoutEach, Report.filter]
  | cons entry rest ih =>
      change withoutEach rest (withoutIgnored (some entry.compiled) report) = _
      rw [ih, withoutIgnored, Report.filter, Report.filter, Report.filter, List.filter_filter]
      simp [Bool.and_comm]

theorem mem_without_ignored (pattern : MessagePattern) (report : Report) (finding : Finding) :
    finding ∈ (withoutIgnored (some pattern) report).findings ↔
      finding ∈ report.findings ∧ pattern.foundIn finding.message = false := by
  simp [withoutIgnored, Report.filter]

theorem read_pattern_texts [ForeignPatterns] (entries : List KnownPattern) (joined : KnownPattern)
    (reads : KnownPattern.ofString? (String.intercalate "|" (entries.map (·.text))) = some joined) :
    readPattern (.list (entries.map fun entry => .text entry.text)) = .ok (some joined.compiled) := by
  have texts : (entries.map fun entry => SettingValue.text entry.text) = (entries.map (·.text)).map .text := by simp
  have joins : joinPatterns (.list (entries.map fun entry => .text entry.text))
      = .ok (.text (String.intercalate "|" (entries.map (·.text)))) := by
    rw [texts, joinPatterns, texts_of_names]
  rw [readPattern, joins]
  change compilePattern (.text _) = _
  rw [compilePattern, MessagePattern.compile?, reads]

/-- A list of patterns is read as one pattern, which is found where one of them matches a piece of the message. So a
finding is ignored exactly if one of the patterns alone is found in its message. -/
theorem read_joined_union [ForeignPatterns] (entries : List KnownPattern) (filled : entries ≠ [])
    (valid : ∀ entry ∈ entries, KnownPattern.ofString? entry.text = some entry) :
    ∃ joined : KnownPattern,
      joined.text = String.intercalate "|" (entries.map (·.text)) ∧
      readPattern (.list (entries.map fun entry => .text entry.text)) = .ok (some joined.compiled) ∧
      KnownPattern.ofString? joined.text = some joined ∧
      (∀ message, joined.compiled.foundIn message = true ↔ ∃ entry ∈ entries, entry.compiled.foundIn message = true) ∧
      (∀ message, joined.compiled.foundIn message = true ↔
        ∃ before inside behind, message.toList = before ++ inside ++ behind ∧
          ∃ entry ∈ entries, Matches entry.pattern before inside behind) ∧
      ∀ report, withoutIgnored (some joined.compiled) report = withoutEach entries report ∧
        (∀ finding, finding ∈ (withoutIgnored (some joined.compiled) report).findings ↔
          finding ∈ report.findings ∧ ¬ ∃ entry ∈ entries, entry.compiled.foundIn finding.message = true) ∧
        ∀ finding ∈ report.findings, finding ∉ (withoutIgnored (some joined.compiled) report).findings ↔
          ∃ entry ∈ entries, finding ∉ (withoutIgnored (some entry.compiled) report).findings := by
  obtain ⟨joined, reads, matchesJoined⟩ := KnownPattern.of_string_joined entries filled valid
  have spelled : joined.text = String.intercalate "|" (entries.map (·.text)) :=
    ((KnownPattern.of_string_iff joined _).mp reads).1
  have pieces (message : String) : joined.compiled.foundIn message = true ↔
      ∃ before inside behind, message.toList = before ++ inside ++ behind ∧
        ∃ entry ∈ entries, Matches entry.pattern before inside behind := by
    rw [joined.found_in_iff]
    simp only [matchesJoined]
  have union (message : String) :
      joined.compiled.foundIn message = true ↔ ∃ entry ∈ entries, entry.compiled.foundIn message = true := by
    rw [pieces]
    simp only [KnownPattern.found_in_iff]
    constructor
    · rintro ⟨before, inside, behind, split, entry, member, matched⟩
      exact ⟨entry, member, before, inside, behind, split, matched⟩
    · rintro ⟨entry, member, before, inside, behind, split, matched⟩
      exact ⟨before, inside, behind, split, entry, member, matched⟩
  refine ⟨joined, spelled, read_pattern_texts entries joined reads, by rw [spelled, reads], union, pieces,
    fun report => ⟨?_, fun finding => ?_, fun finding member => ?_⟩⟩
  · have same (message : String) : joined.compiled.foundIn message = entries.any (·.compiled.foundIn message) := by
      rw [Bool.eq_iff_iff, union, List.any_eq_true]
    simp only [without_each_eq, withoutIgnored, Option.map_some, Option.getD_some, same]
  · rw [mem_without_ignored, ← union finding.message, Bool.not_eq_true]
  · simp only [mem_without_ignored, member, true_and, Bool.not_eq_false]
    exact union finding.message

-- Patterns with a bar of their own, with one in a class between anchors, and with one in a group that is repeated.
def barred : List KnownPattern := ["a|b", "^[|c]$", "(d|e)+f"].filterMap KnownPattern.ofString?

attribute [local instance] ForeignPatterns.none

/-- The joined pattern is found where one of three is that have bars of their own. -/
theorem read_joined_union_barred :
    barred.length = 3 ∧ (∀ entry ∈ barred, KnownPattern.ofString? entry.text = some entry) ∧
      ∃ joined, KnownPattern.ofString? "a|b|^[|c]$|(d|e)+f" = some joined ∧ joined.compiled.foundIn "|" = true ∧
        joined.compiled.foundIn "dede" = false ∧ joined.compiled.foundIn "xdedf" = true := by
  have valid : ∀ entry ∈ barred, KnownPattern.ofString? entry.text = some entry := by decide +kernel
  obtain ⟨joined, spelled, -, own, union, -⟩ := read_joined_union barred (by decide +kernel) valid
  have text : joined.text = "a|b|^[|c]$|(d|e)+f" := spelled.trans (by decide +kernel)
  refine ⟨by decide +kernel, valid, joined, text ▸ own, ?_, ?_, ?_⟩
  · exact (union "|").mpr (by decide +kernel)
  · rw [Bool.eq_false_iff, Ne, union]
    decide +kernel
  · exact (union "xdedf").mpr (by decide +kernel)

end MarkupLint.Settings
