import MarkupLint.Proofs.Check.Session
import MarkupLint.Proofs.Inline

set_option autoImplicit false

namespace MarkupLint.Inline

def SetsUnknown (line key : List Char) : Prop :=
  (∃ value, Sets line key value) ∧ ∀ kind : IgnoreKind, kind.key.toList ≠ key

def SteersUnknown (line word : List Char) : Prop :=
  (marker ++ word <:+ line ∧ word.all isFlowChar = true) ∧ ∀ flow : Flow, flow.word.toList ≠ word

def SettingWarning (origin : Origin) (entry : List Char × Nat) (warning : LogLine) : Prop :=
  ∃ key, SetsUnknown entry.1 key ∧ warning = unknownSetting origin (String.ofList key) entry.2

def FlowWarning (origin : Origin) (entry : List Char × Nat) (warning : LogLine) : Prop :=
  ∃ word, SteersUnknown entry.1 word ∧ warning = unknownFlow origin (String.ofList word) entry.2

theorem of_key_none_iff (key : List Char) :
    IgnoreKind.ofKey? (String.ofList key) = none ↔ ∀ kind : IgnoreKind, kind.key.toList ≠ key := by
  have same (kind : IgnoreKind) : kind.key = String.ofList key ↔ kind.key.toList = key := by
    rw [← String.toList_inj, String.toList_ofList]
  rw [Option.eq_none_iff_forall_ne_some]
  simp only [ne_eq, of_key_iff, same]

theorem of_word_none_iff (word : List Char) :
    Flow.ofWord? (String.ofList word) = none ↔ ∀ flow : Flow, flow.word.toList ≠ word := by
  rw [Option.eq_none_iff_forall_ne_some]
  constructor
  · rintro unknown ⟨⟩ rfl
    exact unknown _ ((Code.flow_of_word_iff _).mpr rfl)
  · rintro unknown ⟨⟩ known
    exact unknown .skipNextCodeBlock ((Code.flow_of_word_iff word).mp known).symm

def settingWarning? (origin : Origin) (entry : List Char × Nat) : Option LogLine := do
  let (key, _) ← settingText? entry.1
  match IgnoreKind.ofKey? (String.ofList key) with
  | some _ => none
  | none => some (unknownSetting origin (String.ofList key) entry.2)

def flowWarning? (origin : Origin) (entry : List Char × Nat) : Option LogLine := do
  let word ← flowWord? entry.1
  match Flow.ofWord? (String.ofList word) with
  | some _ => none
  | none => some (unknownFlow origin (String.ofList word) entry.2)

theorem setting_warning_iff (origin : Origin) (entry : List Char × Nat) (warning : LogLine) :
    settingWarning? origin entry = some warning ↔ SettingWarning origin entry warning := by
  constructor
  · intro read
    obtain ⟨⟨key, value⟩, text, read⟩ := Option.bind_eq_some_iff.mp read
    cases known : IgnoreKind.ofKey? (String.ofList key) with
    | some kind => simp [known] at read
    | none =>
        simp only [known, Option.some.injEq] at read
        exact ⟨key, ⟨⟨value, (setting_text_iff _ _ _).mp text⟩, (of_key_none_iff key).mp known⟩, read.symm⟩
  · rintro ⟨key, ⟨⟨value, sets⟩, unknown⟩, rfl⟩
    simp [settingWarning?, (setting_text_iff _ _ _).mpr sets, (of_key_none_iff key).mpr unknown]

theorem flow_warning_iff (origin : Origin) (entry : List Char × Nat) (warning : LogLine) :
    flowWarning? origin entry = some warning ↔ FlowWarning origin entry warning := by
  constructor
  · intro read
    obtain ⟨word, ends, read⟩ := Option.bind_eq_some_iff.mp read
    cases known : Flow.ofWord? (String.ofList word) with
    | some flow => simp [known] at read
    | none =>
        simp only [known, Option.some.injEq] at read
        exact ⟨word, ⟨(flow_word_some_iff _ _).mp ends, (of_word_none_iff word).mp known⟩, read.symm⟩
  · rintro ⟨word, ⟨ends, unknown⟩, rfl⟩
    simp [flowWarning?, (flow_word_some_iff _ _).mpr ends, (of_word_none_iff word).mpr unknown]

theorem setting_warnings_gathered (origin : Origin) (source : String) (found : List LogLine) :
    Gathered (SettingWarning origin) (numberedLines source) found ↔ settingWarnings origin source = found :=
  gathered_iff (settingWarning? origin) _ (setting_warning_iff origin) _ _

theorem flow_warnings_gathered (origin : Origin) (source : String) (found : List LogLine) :
    Gathered (FlowWarning origin) (numberedLines source) found ↔ flowWarnings origin source = found :=
  gathered_iff (flowWarning? origin) _ (flow_warning_iff origin) _ _

theorem flow_warnings_nil_iff (origin : Origin) (source : String) :
    flowWarnings origin source = [] ↔ ∀ entry ∈ numberedLines source, ∀ word, ¬ SteersUnknown entry.1 word := by
  change (numberedLines source).filterMap (flowWarning? origin) = [] ↔ _
  rw [List.filterMap_eq_nil_iff]
  refine forall₂_congr fun entry _ => ?_
  rw [Option.eq_none_iff_forall_ne_some]
  constructor
  · intro none word unknown
    exact none _ ((flow_warning_iff origin entry _).mpr ⟨word, unknown, rfl⟩)
  · intro none warning read
    obtain ⟨word, unknown, -⟩ := (flow_warning_iff origin entry warning).mp read
    exact none word unknown

end MarkupLint.Inline

namespace MarkupLint.Check

open Inline (Gathered SettingWarning FlowWarning SteersUnknown)

def isUnknownWarning (line : LogLine) : Bool := Text.startsWith "Unknown inline ".toList line.text.toList

theorem setting_is_unknown_warning (origin : Origin) (entry : List Char × Nat) (warning : LogLine)
    (about : SettingWarning origin entry warning) : isUnknownWarning warning = true := by
  obtain ⟨key, -, rfl⟩ := about
  rw [isUnknownWarning, Text.starts_with_iff, Inline.unknownSetting]
  simp

theorem flow_is_unknown_warning (origin : Origin) (entry : List Char × Nat) (warning : LogLine)
    (about : FlowWarning origin entry warning) : isUnknownWarning warning = true := by
  obtain ⟨word, -, rfl⟩ := about
  rw [isUnknownWarning, Text.starts_with_iff, Inline.unknownFlow]
  simp

-- The first words of the other warnings are enough to tell them apart.
theorem reading_no_unknown_warning (line : LogLine) (about : AboutReading line) : isUnknownWarning line = false := by
  have apart (front rest : List Char) (longer : "Unknown inline ".toList.length ≤ front.length)
      (other : ¬ "Unknown inline ".toList <+: front) : ¬ "Unknown inline ".toList <+: front ++ rest := fun begins =>
    other (List.prefix_of_prefix_length_le begins (List.prefix_append front rest) longer)
  rw [← Bool.not_eq_true, isUnknownWarning, Text.starts_with_iff]
  rcases about with ⟨origin, rfl⟩ | ⟨origin, place, rfl⟩
  · simp only [attributeWarning, String.toList_append, List.append_assoc]
    exact apart _ _ (by decide +kernel) (by decide +kernel)
  · simp only [lineWarning, String.toList_append, List.append_assoc]
    exact apart _ _ (by decide +kernel) (by decide +kernel)

def Silent {α : Type} (action : Checking α) : Prop :=
  ∀ session, ∃ added, (action.run session).2.logs = session.logs ++ added ∧
    ∀ line ∈ added, isUnknownWarning line = false

theorem silent_of_same_logs {α : Type} (action : Checking α)
    (same : ∀ session, (action.run session).2.logs = session.logs) : Silent action :=
  fun session => ⟨[], by simp [same session], by simp⟩

theorem silent_inherited : Inherited fun _ => Silent where
  done _ _ := silent_of_same_logs _ fun _ => rfl
  bind _ _ first next silent nextSilent session := by
    obtain ⟨earlier, grown, none⟩ := silent session
    obtain ⟨later, grownAgain, noneAgain⟩ := nextSilent (first.run session).1 (first.run session).2
    refine ⟨earlier ++ later, ?_, List.forall_mem_append.mpr ⟨none, noneAgain⟩⟩
    rw [← List.append_assoc, ← grown]
    exact grownAgain
  look _ _ _ silent session := silent session session
  log lines about _ := ⟨lines, rfl, fun line member => reading_no_unknown_warning line (about line member)⟩
  call _ := silent_of_same_logs _ fun _ => rfl
  prepare _ := silent_of_same_logs _ fun _ => rfl
  adopt _ := silent_of_same_logs _ fun _ => rfl

theorem read_settings_logs (request : Request) (session : Session) :
    ((readSettings request).run session).2.logs = session.logs ++
      if request.warnUnknown && !session.reported.contains (request.source, request.origin) then
        Inline.settingWarnings request.origin request.source
      else [] := by
  rw [read_settings_run]
  change (noted request session).logs = _
  rw [noted_eq]
  split
  · rfl
  · simp

theorem silent_check_within (bench : Workbench) (depth : Nat) (request : Request)
    (quiet : request.warnUnknown = false) : Silent (checkWithin bench depth request) := by
  induction depth generalizing request with
  | zero => exact silent_inherited.done _ _
  | succ depth ih =>
      obtain ⟨rest, restSilent, steps⟩ := silent_inherited.check_text_steps bench (checkWithin bench depth) ih request
      rw [checkWithin, steps]
      refine silent_inherited.bind _ _ _ _ (silent_of_same_logs _ fun session => ?_) fun _ => restSilent
      rw [read_settings_logs]
      simp [quiet]

-- What is inside a document is checked without warnings, so that all of them come from the settings of the document.
theorem check_logs (bench : Workbench) (request : Request) (session : Session)
    (unread : (request.source, displayed request.origin) ∉ session.reported) :
    ∃ others, ((check bench request).run session).2.logs = session.logs ++
        ((if request.warnUnknown then Inline.settingWarnings (displayed request.origin) request.source else []) ++ others) ∧
      ∀ line ∈ others, isUnknownWarning line = false := by
  rw [check, depthOf, checkWithin]
  obtain ⟨rest, restSilent, steps⟩ := silent_inherited.check_text_steps bench _ (silent_check_within bench _) request
  rw [steps]
  obtain ⟨others, grown, none⟩ :=
    restSilent ((readSettings { request with origin := displayed request.origin }).run session).2
  refine ⟨others, ?_, none⟩
  have read := read_settings_logs { request with origin := displayed request.origin } session
  have fresh : session.reported.contains (request.source, displayed request.origin) = false := by
    simpa [List.contains_iff_mem] using unread
  simp only [fresh, Bool.not_false, Bool.and_true] at read
  rw [read] at grown
  rw [← List.append_assoc]
  exact grown

theorem survey_logs (bench : Workbench) (origin : Origin) (source : String) (finish : Markup.Place)
    (nodes : List Markup.Node) (session : Session) :
    ∃ others, ((survey bench origin true source finish nodes).run session).2.logs =
        session.logs ++ (Inline.flowWarnings origin source ++ others) ∧
      ∀ line ∈ others, isUnknownWarning line = false := by
  obtain ⟨others, grown, none⟩ := silent_inherited.survey bench origin source finish nodes
    (session.log (Inline.flowWarnings origin source))
  refine ⟨others, ?_, none⟩
  rw [← List.append_assoc]
  exact grown

theorem filter_unknown_warnings (gives : List Char × Nat → LogLine → Prop)
    (unknown : ∀ entry warning, gives entry warning → isUnknownWarning warning = true)
    (entries : List (List Char × Nat)) (warnings others : List LogLine) (gathered : Gathered gives entries warnings)
    (none : ∀ line ∈ others, isUnknownWarning line = false) :
    (warnings ++ others).filter isUnknownWarning = warnings := by
  have kept : ∀ warning ∈ warnings, isUnknownWarning warning = true := by
    intro warning member
    obtain ⟨entry, -, given⟩ := gathered.given warning member
    exact unknown entry warning given
  have dropped : others.filter isUnknownWarning = [] :=
    List.filter_eq_nil_iff.mpr fun line member => Bool.eq_false_iff.mp (none line member)
  rw [List.filter_append, List.filter_eq_self.mpr kept, dropped, List.append_nil]

/-- A check that is asked to warns once about each line with an unknown key, and never about a line with an unknown
word, for which the walk over the document has warnings too when it is told to give them. -/
theorem unknown_settings_logged_iff (bench : Workbench) (request : Request) (session : Session)
    (unread : (request.source, displayed request.origin) ∉ session.reported) :
    let origin := displayed request.origin
    let lines := Inline.numberedLines request.source
    (∃ added, ((check bench request).run session).2.logs = session.logs ++ added ∧
      let warnings := added.filter isUnknownWarning
      (request.warnUnknown = false → warnings = []) ∧
      (request.warnUnknown = true →
        Gathered (SettingWarning origin) lines warnings ∧
        ((∃ settings flows, Gathered (SettingWarning origin) lines settings ∧ Gathered (FlowWarning origin) lines flows ∧
            warnings.Perm (settings ++ flows)) ↔
          ∀ entry ∈ lines, ∀ word, ¬ SteersUnknown entry.1 word))) ∧
    ∀ finish nodes, ∃ walked,
      ((survey bench origin true request.source finish nodes).run session).2.logs = session.logs ++ walked ∧
      Gathered (FlowWarning origin) lines (walked.filter isUnknownWarning) := by
  intro origin lines
  have settingsGathered := (Inline.setting_warnings_gathered origin request.source _).mpr rfl
  have flowsGathered := (Inline.flow_warnings_gathered origin request.source _).mpr rfl
  refine ⟨?_, fun finish nodes => ?_⟩
  · obtain ⟨others, grown, none⟩ := check_logs bench request session unread
    refine ⟨_, grown, fun quiet => ?_, fun asked => ?_⟩
    · rw [quiet, if_neg Bool.false_ne_true, List.nil_append]
      exact List.filter_eq_nil_iff.mpr fun line member => Bool.eq_false_iff.mp (none line member)
    · rw [asked, if_pos rfl, filter_unknown_warnings _ (setting_is_unknown_warning origin) _ _ _ settingsGathered none]
      refine ⟨settingsGathered, ?_⟩
      rw [← Inline.flow_warnings_nil_iff origin]
      constructor
      · rintro ⟨settings, flows, allSettings, allFlows, same⟩
        rw [Inline.setting_warnings_gathered] at allSettings
        rw [Inline.flow_warnings_gathered] at allFlows
        -- There is no room for a second kind of warnings beside the first one.
        have lengths := same.length_eq
        rw [List.length_append, allSettings, ← allFlows] at lengths
        exact List.eq_nil_of_length_eq_zero (by omega)
      · intro nothing
        refine ⟨_, _, settingsGathered, flowsGathered, ?_⟩
        rw [nothing, List.append_nil]
  · obtain ⟨others, grown, none⟩ := survey_logs bench origin request.source finish nodes session
    refine ⟨_, grown, ?_⟩
    rw [filter_unknown_warnings _ (flow_is_unknown_warning origin) _ _ _ flowsGathered none]
    exact flowsGathered

/-- Of an unknown key and an unknown word only the key is heard of. -/
theorem unknown_settings_logged_key :
    let bench : Workbench :=
      { project := false
        yaml := false
        nesting := 9
        tools := ⟨fun _ => none, fun _ => ⟨"", ["t"]⟩, fun _ => none⟩
        files := default }
    let origin := Origin.text "<string>"
    let request : Request := ⟨".. rstcheck: foo=bar\n\n.. rstcheck: frobnicate\n", origin, 1, true, {}⟩
    let lines := Inline.numberedLines request.source
    ((check bench request).run {}).2.logs.filter isUnknownWarning = [Inline.unknownSetting origin "foo" 1] ∧
    Gathered (SettingWarning origin) lines [Inline.unknownSetting origin "foo" 1] ∧
    Gathered (FlowWarning origin) lines [Inline.unknownFlow origin "frobnicate" 3] := by
  intro bench origin request lines
  obtain ⟨⟨added, grown, -, asked⟩, -⟩ := unknown_settings_logged_iff bench request {} List.not_mem_nil
  have key : Gathered (SettingWarning origin) lines [Inline.unknownSetting origin "foo" 1] :=
    (Inline.setting_warnings_gathered origin request.source _).mpr (by decide +kernel)
  have word : Gathered (FlowWarning origin) lines [Inline.unknownFlow origin "frobnicate" 3] :=
    (Inline.flow_warnings_gathered origin request.source _).mpr (by decide +kernel)
  refine ⟨?_, key, word⟩
  have logged := (Inline.setting_warnings_gathered origin request.source _).mp (asked rfl).1
  rw [grown, List.nil_append, ← logged]
  exact (Inline.setting_warnings_gathered origin request.source _).mp key

end MarkupLint.Check
