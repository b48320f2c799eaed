import MarkupLint.Proofs.Batch.Independence
import Mathlib.Data.List.Forall2

set_option autoImplicit false

namespace MarkupLint

namespace Settings

structure SameCaller (settings given : Settings) : Prop where
  source : settings.source = given.source
  recursive : settings.recursive = given.recursive
  warnUnknown : settings.warnUnknown = given.warnUnknown

theorem same_caller_refl (settings : Settings) : settings.SameCaller settings := ⟨rfl, rfl, rfl⟩

theorem same_caller_trans (first second third : Settings) (same : first.SameCaller second)
    (again : second.SameCaller third) : first.SameCaller third :=
  ⟨same.source.trans again.source, same.recursive.trans again.recursive, same.warnUnknown.trans again.warnUnknown⟩

theorem merge_same_caller (settings : Settings) (found : FileSettings) (dominant : Bool) :
    (settings.merge found.full dominant).SameCaller settings := by
  have unset (α : Type) (value : Option α) : (value <|> none) = value := by cases value <;> rfl
  cases dominant with
  | true => exact ⟨rfl, rfl, rfl⟩
  | false => exact ⟨unset _ _, unset _ _, unset _ _⟩

theorem extended_same_caller (settings : Settings) (sources : List String) :
    (settings.extended sources).SameCaller settings := ⟨rfl, rfl, rfl⟩

end Settings

namespace Batch

theorem reads_input_iff (batch : Batch) : batch.readsInput = true ↔ ∃ path, batch.paths = [path] ∧ path.name = "-" := by
  rw [readsInput]
  split
  · next path single => simp [single]
  · next others => simpa using fun path single _ => others path single

theorem update_frame (batch : Batch) (files : FileSystem) :
    ∃ documents missing, (batch.update files).batch = { batch with files := documents, missing := missing } := by
  rw [update]
  split
  · exact ⟨_, _, rfl⟩
  · exact ⟨_, _, rfl⟩

theorem enlist_outcome (updated : Updated) (lines : List LogLine) :
    Loading.outcome (do
      modify (· ++ updated.lines)
      match updated.fault with
      | some fault => throw (.badPath fault)
      | none => return updated.batch) lines =
      match updated.fault with
      | some fault => .error (.badPath fault)
      | none => .ok updated.batch := by
  cases updated.fault <;> rfl

section Loading

variable [ForeignPatterns]

theorem merge_from_outcome (files : FileSystem) (overwrite warnUnknown : Bool) (settings : Settings) (path : Path)
    (lines : List LogLine) :
    Loading.outcome (mergeFrom files overwrite warnUnknown settings path) lines =
      match Loading.outcome (Settings.loadPath files { warnUnknown } path) lines with
      | .error cause => .error cause
      | .ok none => .ok settings
      | .ok (some found) => .ok (settings.merge found.full overwrite) := by
  rw [mergeFrom, Loading.outcome_bind]
  rcases Loading.outcome (Settings.loadPath files { warnUnknown } path) lines with cause | _ | found <;> rfl

theorem load_settings_outcome (batch : Batch) (files : FileSystem) (warnUnknown : Bool) (path : Path)
    (lines : List LogLine) :
    Loading.outcome (batch.loadSettings files warnUnknown path) lines =
      match Loading.outcome (Settings.loadPath files { warnUnknown } path) lines with
      | .error cause => .error cause
      | .ok none => .ok batch
      | .ok (some found) => .ok { batch with settings := batch.settings.merge found.full batch.overwrite } := by
  rw [loadSettings, Loading.outcome_bind, merge_from_outcome]
  rcases Loading.outcome (Settings.loadPath files { warnUnknown } path) lines with cause | _ | found <;> rfl

theorem merge_from_same_caller (files : FileSystem) (overwrite warnUnknown : Bool) (settings merged : Settings)
    (path : Path) (lines : List LogLine)
    (loaded : Loading.outcome (mergeFrom files overwrite warnUnknown settings path) lines = .ok merged) :
    merged.SameCaller settings := by
  rw [merge_from_outcome] at loaded
  generalize Loading.outcome (Settings.loadPath files { warnUnknown } path) lines = result at loaded
  rcases result with cause | _ | found
  · cases loaded
  · cases loaded
    exact settings.same_caller_refl
  · cases loaded
    exact settings.merge_same_caller found overwrite

theorem create_outcome (files : FileSystem) (settings : Settings) (overwrite : Bool) (paths : List Path)
    (lines : List LogLine) (batch : Batch)
    (created : Loading.outcome (create files settings overwrite paths) lines = .ok batch) :
    ∃ loaded : Settings, loaded.SameCaller settings ∧
      let updated := update { settings := loaded, overwrite, paths } files
      updated.fault = none ∧ batch = updated.batch := by
  obtain ⟨loaded, before, same, ended⟩ : ∃ (loaded : Settings) (before : List LogLine), loaded.SameCaller settings ∧
      Loading.outcome (do
        modify (· ++ (update { settings := loaded, overwrite, paths } files).lines)
        match (update { settings := loaded, overwrite, paths } files).fault with
        | some fault => throw (.badPath fault)
        | none => return (update { settings := loaded, overwrite, paths } files).batch) before = .ok batch := by
    rw [create] at created
    cases given : settings.source with
    | none =>
        rw [given] at created
        exact ⟨settings, lines, settings.same_caller_refl, created⟩
    | some path =>
        rw [given] at created
        dsimp only at created
        rw [Loading.outcome_bind] at created
        cases merging : Loading.outcome (mergeFrom files overwrite (settings.warnUnknown.getD false) settings path)
            lines with
        | error cause =>
            rw [merging] at created
            cases created
        | ok merged =>
            rw [merging] at created
            exact ⟨merged, _, merge_from_same_caller files overwrite _ settings merged path lines merging, created⟩
  refine ⟨loaded, same, ?_⟩
  intro updated
  rw [enlist_outcome updated before] at ended
  cases result : updated.fault with
  | some fault => simp [result] at ended
  | none =>
      rw [result] at ended
      cases ended
      exact ⟨rfl, rfl⟩

theorem create_discovered (files : FileSystem) (settings : Settings) (overwrite : Bool)
    (paths stay missing documents : List Path) (lines : List LogLine) (unsourced : settings.source = none)
    (several : readsInput { settings, overwrite, paths } = false)
    (sifted : sift files.fault? (files.isPresent (settings.recursive.getD false)) [] paths = { stay, missing })
    (found : files.discover (settings.recursive.getD false) stay = { documents }) :
    Loading.outcome (create files settings overwrite paths) lines
      = .ok { settings, overwrite, paths, files := documents, missing } := by
  have updated : update { settings, overwrite, paths } files =
      { batch := { settings, overwrite, paths, files := documents, missing }
        lines := missing.map (missingWarning (settings.recursive.getD false)) } := by
    rw [update, several]
    simp only [sifted, found, Bool.false_eq_true, if_false, Option.isSome_none]
  rw [create, unsourced]
  refine (enlist_outcome (update { settings, overwrite, paths } files) lines).trans ?_
  rw [updated]

end Loading

-- Each file of a group, with those of the group that are checked before it.
def turnsAfter : List Path → List Path → List (List Path × Path)
  | _, [] => []
  | before, path :: rest => (before, path) :: turnsAfter (before ++ [path]) rest

@[simp]
theorem turns_after_paths (before paths : List Path) : (turnsAfter before paths).map (·.2) = paths := by
  fun_induction turnsAfter before paths with
  | case1 => rfl
  | case2 before path rest ih => rw [List.map_cons, ih]

theorem share_size_positive (workers count : Nat) (staffed : 0 < workers) (filled : 0 < count) :
    0 < shareSize workers count := by
  refine Nat.div_pos ?_ ?_ <;> omega

theorem groups_flatten (size fuel : Nat) (files : List Path) (positive : 0 < size) (enough : files.length ≤ fuel) :
    (groups size fuel files).flatten = files := by
  induction fuel generalizing files with
  | zero => simp [groups, List.length_eq_zero_iff.mp (Nat.le_zero.mp enough)]
  | succ fuel ih =>
      cases files with
      | nil => rfl
      | cons path rest =>
          have shorter : ((path :: rest).drop size).length ≤ fuel := by
            rw [List.length_drop]
            omega
          rw [groups, List.flatten_cons, ih _ shorter, List.take_append_drop]
          simp

def shares (batch : Batch) (workers : Nat) : List (List Path) :=
  groups (shareSize workers batch.files.length) batch.files.length batch.files

def turns (batch : Batch) (workers : Nat) : List (List Path × Path) := (batch.shares workers).flatMap (turnsAfter [])

theorem shares_flatten (batch : Batch) (workers : Nat) (staffed : 0 < workers) :
    (batch.shares workers).flatten = batch.files := by
  cases files : batch.files with
  | nil => simp [shares, files, groups]
  | cons path rest =>
      have positive := share_size_positive workers batch.files.length staffed (by simp [files])
      rw [shares, groups_flatten _ _ _ positive (Nat.le_refl _), files]

theorem turns_paths (batch : Batch) (workers : Nat) (staffed : 0 < workers) :
    (batch.turns workers).map (·.2) = batch.files := by
  simp [turns, List.map_flatMap, shares_flatten batch workers staffed]

theorem shares_single (batch : Batch) (workers : Nat) (staffed : 0 < workers) (path : Path)
    (single : batch.files = [path]) : batch.shares workers = [[path]] := by
  have positive : [path].length ≤ shareSize workers 1 := share_size_positive workers 1 staffed Nat.one_pos
  simp [shares, single, groups, List.take_of_length_le positive]

theorem turns_few (batch : Batch) (workers : Nat) (staffed : 0 < workers) (few : batch.files.length ≤ 1) :
    batch.turns workers = turnsAfter [] batch.files := by
  match files : batch.files with
  | [] => simp [turns, shares, files, groups, turnsAfter]
  | [path] => simp [turns, shares_single batch workers staffed path files]
  | _ :: _ :: _ => simp [files] at few

section Checks

variable [ForeignPatterns]

-- The settings after some files, of which each has left what its own check adds.
def settingsAfter (desk : Desk) (overwrite : Bool) (settings : Settings) (before : List Path) : Settings :=
  before.foldl (fun held path => (checkedAlone desk overwrite held path).settings) settings

def IsResult (desk : Desk) (overwrite : Bool) (settings : Settings) (turn : List Path × Path) (found : List Finding) :
    Prop :=
  (checkedAlone desk overwrite (settingsAfter desk overwrite settings turn.1) turn.2).findings = .ok found

section Results

variable (desk : Desk) (overwrite : Bool) (settings : Settings)

theorem settings_after_append (before : List Path) (path : Path) :
    settingsAfter desk overwrite settings (before ++ [path])
      = (checkedAlone desk overwrite (settingsAfter desk overwrite settings before) path).settings := by
  rw [settingsAfter, List.foldl_append]
  rfl

-- The induction is on the files to come; those before them are in the settings.
theorem checked_in_turn_results (before paths : List Path) (results : List (List Finding))
    (done : (checkedInTurn desk overwrite (settingsAfter desk overwrite settings before) paths).findings = .ok results) :
    List.Forall₂ (IsResult desk overwrite settings) (turnsAfter before paths) results := by
  induction paths generalizing before results with
  | nil =>
      cases done
      exact .nil
  | cons path rest ih =>
      rw [checkedInTurn, ← settings_after_append] at done
      cases first : (checkedAlone desk overwrite (settingsAfter desk overwrite settings before) path).findings with
      | error error => simp [first] at done
      | ok found =>
          simp only [first] at done
          cases later : (checkedInTurn desk overwrite (settingsAfter desk overwrite settings (before ++ [path]))
              rest).findings with
          | error error =>
              rw [later] at done
              cases done
          | ok others =>
              rw [later] at done
              cases done
              exact .cons first (ih (before ++ [path]) others later)

theorem check_apart_results (session : Session) (parts : List (List Path)) (results : List (List Finding))
    (done : checkApart desk overwrite settings session parts = .ok results) :
    List.Forall₂ (IsResult desk overwrite settings) (parts.flatMap (turnsAfter [])) results := by
  induction parts generalizing results with
  | nil =>
      cases done
      exact .nil
  | cons part rest ih =>
      rw [checkApart, check_in_turn_run] at done
      cases first : (checkedInTurn desk overwrite settings part).findings with
      | error error =>
          rw [first] at done
          cases done
      | ok found =>
          rw [first] at done
          cases later : checkApart desk overwrite settings session rest with
          | error error =>
              rw [later] at done
              cases done
          | ok others =>
              rw [later] at done
              cases done
              rw [List.flatMap_cons]
              exact List.rel_append (checked_in_turn_results desk overwrite settings [] part found first) (ih others later)

end Results

theorem check_all_single (batch : Batch) (desk : Desk) (session : Session) (opened : desk.batchFault? = none)
    (few : batch.files.length ≤ 1) :
    ((batch.checkAll desk).run session).1 = checkedInTurn desk batch.overwrite batch.settings batch.files := by
  rw [← check_in_turn_run desk batch.overwrite batch.settings batch.files session]
  simp only [checkAll, opened, if_pos few]

-- Several files have the settings of the batch apart; a single one has them itself.
theorem check_all_outcome (batch : Batch) (desk : Desk) (session : Session) :
    let outcome := ((batch.checkAll desk).run session).1
    (∃ read, outcome.settings = batch.settings.extended read) ∧
    ∀ results, outcome.findings = .ok results →
      List.Forall₂ (IsResult desk batch.overwrite batch.settings) (batch.turns desk.workers) results := by
  intro outcome
  cases opened : desk.batchFault? with
  | some error =>
      have ended : outcome = ⟨.error error, batch.settings⟩ := by
        simp only [outcome, checkAll, opened]
        rfl
      rw [ended]
      exact ⟨⟨[], batch.settings.extended_nil.symm⟩, fun results done => by cases done⟩
  | none =>
      by_cases few : batch.files.length ≤ 1
      · rw [show outcome = _ from check_all_single batch desk session opened few, turns_few batch _ desk.staffed few]
        exact ⟨checked_in_turn_extended desk batch.overwrite batch.settings batch.files,
          checked_in_turn_results desk batch.overwrite batch.settings [] batch.files⟩
      · have ended : outcome =
            ⟨checkApart desk batch.overwrite batch.settings session (batch.shares desk.workers), batch.settings⟩ := by
          simp only [outcome, checkAll, opened, if_neg few]
          rfl
        rw [ended]
        exact ⟨⟨[], batch.settings.extended_nil.symm⟩,
          check_apart_results desk batch.overwrite batch.settings session (batch.shares desk.workers)⟩

theorem check_run (batch : Batch) (desk : Desk) (session : Session) :
    let outcome := ((batch.checkAll desk).run session).1
    ((batch.check desk).run session).1 =
      match outcome.findings with
      | .ok results => ({ batch with settings := outcome.settings, findings := results.flatten }, none)
      | .error error => ({ batch with settings := outcome.settings }, some error) := by
  intro outcome
  rw [check]
  change ((match outcome.findings with
    | .ok findings => pure (Batch.collect { batch with settings := outcome.settings } findings, none)
    | .error error => pure ({ batch with settings := outcome.settings }, some error) :
      Checking (Batch × Option FileError)).run _).1 = _
  cases outcome.findings <;> rfl

theorem check_done (batch checked : Batch) (desk : Desk) (session : Session)
    (done : ((batch.check desk).run session).1 = (checked, none)) :
    ∃ results, ((batch.checkAll desk).run session).1.findings = .ok results ∧
      List.Forall₂ (IsResult desk batch.overwrite batch.settings) (batch.turns desk.workers) results ∧
      checked.findings = results.flatten ∧ checked.missing = batch.missing := by
  rw [check_run] at done
  cases outcome : ((batch.checkAll desk).run session).1.findings with
  | error error => simp [outcome] at done
  | ok results =>
      rw [outcome] at done
      obtain ⟨rfl, -⟩ := Prod.mk.inj done
      exact ⟨results, rfl, (check_all_outcome batch desk session).2 results outcome, rfl, rfl⟩

end Checks

-- A directory with one file, in which a prompt has no blank behind it.
def prompted : Desk where
  bench :=
    { project := false
      yaml := false
      tools := ⟨fun _ => none, fun _ => ⟨"", ["t"]⟩, fun _ => none⟩
      files := { tree := .directory (.cons "a.rst" (.file (plainBytes ">>> 1\n>>>2\n")) .nil), directory := ⟨"/", []⟩ }
      nesting := 9 }

def promptedBatch : Batch where
  settings := {}
  overwrite := true
  paths := [⟨"", ["gone.rst"]⟩, ⟨"", ["a.rst"]⟩]
  files := [⟨"", ["a.rst"]⟩]
  missing := [⟨"", ["gone.rst"]⟩]

attribute [local instance] ForeignPatterns.none

theorem prompted_created : Loading.outcome (create prompted.files {} true promptedBatch.paths) [] = .ok promptedBatch := by
  have found : prompted.files.discover false promptedBatch.files = { documents := promptedBatch.files } := by
    rw [promptedBatch, FileSystem.discover, FileSystem.discover]
    rfl
  exact create_discovered prompted.files {} true promptedBatch.paths promptedBatch.files promptedBatch.missing _ [] rfl
    rfl rfl found

theorem prompted_checked (session : Session) : ∃ finding : Finding, finding.line = 2 ∧
    ((promptedBatch.check prompted).run session).1 = ({ promptedBatch with findings := [finding] }, none) := by
  have lines : (checkedAlone prompted true {} ⟨"", ["a.rst"]⟩).findings.toOption.map (·.map Finding.line) = some [2] := by
    decide +kernel
  obtain ⟨read, -, settings⟩ := checked_alone_settings prompted true {} ⟨"", ["a.rst"]⟩
  have turn : ((promptedBatch.checkAll prompted).run session).1 = checkedInTurn prompted true {} [⟨"", ["a.rst"]⟩] :=
    check_all_single promptedBatch prompted session rfl (by decide)
  rw [check_run, turn, checkedInTurn]
  cases findings : (checkedAlone prompted true {} ⟨"", ["a.rst"]⟩).findings with
  | error error => simp [findings, Except.toOption] at lines
  | ok found =>
      rw [findings] at lines
      obtain ⟨finding, rfl, second⟩ := List.map_eq_singleton_iff.mp (Option.some.inj lines)
      refine ⟨finding, second, ?_⟩
      dsimp only
      rw [settings]
      rfl

end Batch

end MarkupLint
