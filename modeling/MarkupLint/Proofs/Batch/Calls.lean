import MarkupLint.Proofs.Batch.Discovery
import MarkupLint.Proofs.Batch.Steps

set_option autoImplicit false

namespace MarkupLint.Batch

inductive Call where
  | load (path : Path) (warnUnknown : Bool)
  | update
  | check (input : String)
  | report

inductive Reply where
  | loaded (fault : Option LoadError)
  | updated (fault : Option PathError)
  | checked (results : Except FileError (List (List Finding)))
  | reported (status : Nat) (text : String)

structure Standing where
  batch : Batch
  session : Session

-- A load that fails leaves the batch; an update or a check that fails leaves what it has come to.
def perform [ForeignPatterns] (desk : Desk) (standing : Standing) : Call → Standing × Reply
  | .load path warnUnknown =>
      match (standing.batch.loadSettings desk.files warnUnknown path).run [] with
      | (.ok batch, lines) => (⟨batch, standing.session.log lines⟩, .loaded none)
      | (.error cause, lines) => (⟨standing.batch, standing.session.log lines⟩, .loaded (some cause))
  | .update =>
      let updated := standing.batch.update desk.files
      (⟨updated.batch, standing.session.log updated.lines⟩, .updated updated.fault)
  | .check input =>
      let checked := (standing.batch.check { desk with input }).run standing.session
      (⟨checked.1.1, checked.2⟩,
        .checked ((standing.batch.checkAll { desk with input }).run standing.session).1.findings)
  | .report => (standing, .reported standing.batch.exitStatus standing.batch.reportText)

def run [ForeignPatterns] (desk : Desk) : Standing → List Call → Standing × List Reply
  | standing, [] => (standing, [])
  | standing, call :: calls =>
      let first := perform desk standing call
      let later := run desk first.1 calls
      (later.1, first.2 :: later.2)

def lastResults (before : List (List Finding)) : List Reply → List (List Finding)
  | [] => before
  | .checked (.ok results) :: replies => lastResults results replies
  | _ :: replies => lastResults before replies

theorem perform_load_batch [ForeignPatterns] (desk : Desk) (standing : Standing) (path : Path) (warnUnknown : Bool) :
    (perform desk standing (.load path warnUnknown)).1.batch =
      match Loading.outcome (Settings.loadPath desk.files { warnUnknown } path) [] with
      | .ok (some found) =>
          { standing.batch with settings := standing.batch.settings.merge found.full standing.batch.overwrite }
      | _ => standing.batch := by
  have outcome := load_settings_outcome standing.batch desk.files warnUnknown path []
  rw [Loading.outcome] at outcome
  rw [perform]
  generalize (standing.batch.loadSettings desk.files warnUnknown path).run [] = ran at outcome
  obtain ⟨result, lines⟩ := ran
  dsimp only at outcome
  subst outcome
  rcases Loading.outcome (Settings.loadPath desk.files { warnUnknown } path) [] with cause | _ | found <;> rfl

def Listed (files : FileSystem) (listed : List Path) : Prop :=
  (∃ path : Path, path.name = "-" ∧ listed = [path]) ∨ ∀ path ∈ listed, files.isDocument path = true

theorem update_listed (batch : Batch) (files : FileSystem) : Listed files (batch.update files).batch.files := by
  by_cases reads : batch.readsInput = true
  · obtain ⟨path, single, dash⟩ := (reads_input_iff batch).mp reads
    rw [update, if_pos reads]
    exact .inl ⟨path, dash, single⟩
  · rw [(update_eq batch files (Bool.eq_false_iff.mpr reads)).2]
    refine .inr ?_
    split
    · exact fun _ member => absurd member List.not_mem_nil
    · exact files.discover_sound _ _

structure Sound (files : FileSystem) (given : Settings) (batch : Batch) : Prop where
  settings : batch.settings.SameCaller given
  files : Listed files batch.files

section Perform

variable [ForeignPatterns] (desk : Desk) (standing : Standing)

theorem perform_sound (given : Settings) (call : Call) (sound : Sound desk.files given standing.batch) :
    Sound desk.files given (perform desk standing call).1.batch := by
  cases call with
  | load path warnUnknown =>
      rw [perform_load_batch]
      split
      · next found _ =>
          have same := standing.batch.settings.merge_same_caller found standing.batch.overwrite
          exact ⟨Settings.same_caller_trans _ _ _ same sound.settings, sound.files⟩
      · exact sound
  | update =>
      obtain ⟨documents, missing, frame⟩ := update_frame standing.batch desk.files
      refine ⟨?_, update_listed standing.batch desk.files⟩
      change (standing.batch.update desk.files).batch.settings.SameCaller given
      rw [frame]
      exact sound.settings
  | check input =>
      obtain ⟨⟨read, grown⟩, -⟩ := check_all_outcome standing.batch { desk with input } standing.session
      change Sound desk.files given ((standing.batch.check { desk with input }).run standing.session).1.1
      rw [check_run, grown]
      have same := standing.batch.settings.extended_same_caller read
      have kept := Settings.same_caller_trans _ _ _ same sound.settings
      cases ((standing.batch.checkAll { desk with input }).run standing.session).1.findings with
      | ok results => exact ⟨kept, sound.files⟩
      | error error => exact ⟨kept, sound.files⟩
  | report => exact sound

theorem perform_findings (call : Call) (before : List (List Finding)) (flat : standing.batch.findings = before.flatten) :
    (perform desk standing call).1.batch.findings = (lastResults before [(perform desk standing call).2]).flatten := by
  cases call with
  | load path warnUnknown =>
      have kept : (perform desk standing (.load path warnUnknown)).1.batch.findings = before.flatten := by
        rw [perform_load_batch]
        split <;> exact flat
      obtain ⟨fault, reply⟩ : ∃ fault, (perform desk standing (.load path warnUnknown)).2 = .loaded fault := by
        rw [perform]
        split <;> exact ⟨_, rfl⟩
      rw [kept, reply]
      rfl
  | update =>
      obtain ⟨documents, missing, frame⟩ := update_frame standing.batch desk.files
      change (standing.batch.update desk.files).batch.findings = before.flatten
      rw [frame]
      exact flat
  | check input =>
      change ((standing.batch.check { desk with input }).run standing.session).1.1.findings = (lastResults before
        [.checked ((standing.batch.checkAll { desk with input }).run standing.session).1.findings]).flatten
      rw [check_run]
      cases ((standing.batch.checkAll { desk with input }).run standing.session).1.findings with
      | ok results => rfl
      | error error => exact flat
  | report => exact flat

theorem perform_check_results (input : String) (results : List (List Finding))
    (completed : (perform desk standing (.check input)).2 = .checked (.ok results)) :
    List.Forall₂ (IsResult { desk with input } standing.batch.overwrite standing.batch.settings)
      (standing.batch.turns desk.workers) results :=
  (check_all_outcome standing.batch { desk with input } standing.session).2 results (Reply.checked.inj completed)

end Perform

theorem last_results_cons (before : List (List Finding)) (reply : Reply) (replies : List Reply) :
    lastResults before (reply :: replies) = lastResults (lastResults before [reply]) replies := by
  cases reply with
  | checked results => cases results <;> rfl
  | loaded fault => rfl
  | updated fault => rfl
  | reported status text => rfl

section Run

variable [ForeignPatterns] (desk : Desk) (standing : Standing) (calls : List Call)

theorem run_sound (given : Settings) (sound : Sound desk.files given standing.batch) :
    Sound desk.files given (run desk standing calls).1.batch := by
  induction calls generalizing standing with
  | nil => exact sound
  | cons call calls ih => exact ih (perform desk standing call).1 (perform_sound desk standing given call sound)

theorem run_findings (before : List (List Finding)) (flat : standing.batch.findings = before.flatten) :
    (run desk standing calls).1.batch.findings = (lastResults before (run desk standing calls).2).flatten := by
  induction calls generalizing standing before with
  | nil => exact flat
  | cons call calls ih =>
      rw [run, last_results_cons]
      exact ih (perform desk standing call).1 _ (perform_findings desk standing call before flat)

end Run

theorem create_sound [ForeignPatterns] (desk : Desk) (settings : Settings) (overwrite : Bool) (paths : List Path)
    (lines : List LogLine) (batch : Batch)
    (created : Loading.outcome (create desk.files settings overwrite paths) lines = .ok batch) :
    Sound desk.files settings batch ∧ batch.findings = [] := by
  obtain ⟨loaded, same, -, made⟩ := create_outcome desk.files settings overwrite paths lines batch created
  have listed := update_listed { settings := loaded, overwrite, paths } desk.files
  obtain ⟨documents, missing, frame⟩ := update_frame { settings := loaded, overwrite, paths } desk.files
  rw [← made] at listed frame
  rw [frame] at listed ⊢
  exact ⟨⟨same, listed⟩, rfl⟩

/-- After any calls, failed ones included, a batch has the settings of its caller, lists the standard input or else
only paths that resolve to documents, and holds the findings of the last check that came to its end. A load that fails
or finds nothing, and a report, leave it as it is. -/
theorem run_keeps [ForeignPatterns] (desk : Desk) (settings : Settings) (overwrite : Bool) (paths : List Path)
    (lines : List LogLine) (session : Session) (batch : Batch)
    (created : Loading.outcome (create desk.files settings overwrite paths) lines = .ok batch) (calls : List Call) :
    let standing := (run desk ⟨batch, session⟩ calls).1
    let replies := (run desk ⟨batch, session⟩ calls).2
    standing.batch.settings.source = settings.source ∧ standing.batch.settings.recursive = settings.recursive ∧
    standing.batch.settings.warnUnknown = settings.warnUnknown ∧
    (∀ path warnUnknown,
      (∀ found, Loading.outcome (Settings.loadPath desk.files { warnUnknown } path) [] ≠ .ok (some found)) →
      (perform desk standing (.load path warnUnknown)).1.batch = standing.batch) ∧
    ((∃ path : Path, path.name = "-" ∧ standing.batch.files = [path]) ∨
      ∀ path ∈ standing.batch.files, desk.files.isDocument path = true) ∧
    standing.batch.findings = (lastResults [] replies).flatten ∧
    (∀ input results, (perform desk standing (.check input)).2 = .checked (.ok results) →
      List.Forall₂ (IsResult { desk with input } standing.batch.overwrite standing.batch.settings)
        (standing.batch.turns desk.workers) results) ∧
    (standing.batch.turns desk.workers).map (·.2) = standing.batch.files ∧
    (perform desk standing .report).1 = standing := by
  intro standing replies
  obtain ⟨sound, fresh⟩ := create_sound desk settings overwrite paths lines batch created
  have kept : Sound desk.files settings standing.batch := run_sound desk ⟨batch, session⟩ calls settings sound
  refine ⟨kept.settings.source, kept.settings.recursive, kept.settings.warnUnknown, ?_, kept.files, ?_, ?_,
    turns_paths standing.batch desk.workers desk.staffed, rfl⟩
  · intro path warnUnknown nothing
    rw [perform_load_batch]
    split
    · next found loaded => exact absurd loaded (nothing found)
    · rfl
  · exact run_findings desk ⟨batch, session⟩ calls [] fresh
  · exact perform_check_results desk standing

attribute [local instance] ForeignPatterns.none

/-- The finding of a check stays when the files are looked up again and settings are asked of a file that is not
there. -/
theorem run_keeps_prompted : ∃ finding : Finding, finding.line = 2 ∧
    let ran := run prompted ⟨promptedBatch, {}⟩ [.check "", .update]
    Loading.outcome (create prompted.files {} true promptedBatch.paths) [] = .ok promptedBatch ∧
    ran.1.batch.findings = [finding] ∧ (lastResults [] ran.2).flatten = [finding] ∧
    ran.1.batch.settings.recursive = none ∧
    (perform prompted ran.1 (.load ⟨"", ["gone.cfg"]⟩ true)).1.batch = ran.1.batch := by
  obtain ⟨finding, line, done⟩ := prompted_checked {}
  have found : (run prompted ⟨promptedBatch, {}⟩ [.check "", .update]).1.batch.findings = [finding] := by
    have same : { prompted with input := "" } = prompted := rfl
    obtain ⟨documents, missing, frame⟩ := update_frame { promptedBatch with findings := [finding] } prompted.files
    simp only [run, perform, same, done]
    rw [frame]
  obtain ⟨-, recursive, -, loads, -, findings, -⟩ :=
    run_keeps prompted {} true promptedBatch.paths [] {} promptedBatch prompted_created [.check "", .update]
  generalize run prompted ⟨promptedBatch, {}⟩ [.check "", .update] = ran at found recursive loads findings ⊢
  refine ⟨finding, line, prompted_created, found, findings.symm.trans found, recursive, ?_⟩
  refine loads ⟨"", ["gone.cfg"]⟩ true ?_
  intro settings
  have missing : Loading.outcome (Settings.loadPath prompted.files { warnUnknown := true } ⟨"", ["gone.cfg"]⟩) []
      = .error (.noPath ⟨"", ["gone.cfg"]⟩) := rfl
  rw [missing]
  exact nofun

-- A document, and a link to it with another name.
def linked : FileSystem where
  tree := .directory (.cons "a.rst" (.file []) (.cons "notes.txt" (.link ⟨"", ["a.rst"]⟩) .nil))
  directory := ⟨"/", []⟩

/-- Two paths that resolve to the document are listed: one is that of the link, and the other leads nowhere. -/
theorem create_linked :
    let paths : List Path := [⟨"", ["notes.txt"]⟩, ⟨"", ["a.rst", "x", ".."]⟩]
    Loading.outcome (create linked {} true paths) [] = .ok { settings := {}, overwrite := true, paths, files := paths } ∧
    (∀ path ∈ paths, linked.resolve path = ⟨"/", ["a.rst"]⟩ ∧ path.hasExtension ".rst" = false) ∧
    linked.reach ⟨"", ["a.rst", "x", ".."]⟩ = .error .notDirectory := by
  intro paths
  have found : linked.discover false paths = { documents := paths } := by
    rw [FileSystem.discover, FileSystem.discover, FileSystem.discover]
    rfl
  exact ⟨create_discovered linked {} true paths paths [] paths [] rfl rfl rfl found, by decide +kernel, rfl⟩

end MarkupLint.Batch
