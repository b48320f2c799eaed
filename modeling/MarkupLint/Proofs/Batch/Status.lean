import MarkupLint.Proofs.Batch.Discovery
import MarkupLint.Proofs.Batch.Steps
import MarkupLint.Proofs.Finding

set_option autoImplicit false

namespace MarkupLint.Batch

@[simp]
theorem is_clean_iff (batch : Batch) : batch.isClean = true ↔ batch.findings = [] ∧ batch.missing = [] := by
  simp [isClean]

@[simp]
theorem exit_status_zero_iff (batch : Batch) : batch.exitStatus = 0 ↔ batch.findings = [] ∧ batch.missing = [] := by
  rw [← is_clean_iff, exitStatus]
  cases batch.isClean <;> simp

theorem update_missing_nil_iff (batch : Batch) (files : FileSystem) (several : batch.readsInput = false)
    (whole : (batch.update files).fault = none) : (batch.update files).batch.missing = [] ↔
      ∀ path ∈ batch.paths, files.isPresent (batch.settings.recursive.getD false) path = true := by
  have sound := whole
  rw [(update_eq batch files several).1] at sound
  have sifted : (sift files.fault? (files.isPresent (batch.settings.recursive.getD false)) [] batch.paths).fault = none := by
    cases result : (sift files.fault? (files.isPresent (batch.settings.recursive.getD false)) [] batch.paths).fault with
    | none => rfl
    | some fault => simp [result] at sound
  rw [← sift_missing_nil_iff files.fault? (files.isPresent (batch.settings.recursive.getD false)) [] batch.paths sifted,
    update, several]
  rfl

theorem report_lines_clean (batch : Batch) (clean : batch.exitStatus = 0) :
    batch.reportLines = ["Success! No issues detected."] := by
  rw [exit_status_zero_iff, ← is_clean_iff] at clean
  rw [reportLines, if_pos clean]

theorem report_lines_found (batch : Batch) (found : batch.exitStatus ≠ 0) :
    batch.exitStatus = 1 ∧ batch.reportLines = batch.findings.map (fun finding =>
      finding.origin ++ ":" ++ toString finding.line ++ ": " ++ finding.categorised.message) ++
        ["Error! Issues detected."] := by
  rw [ne_eq, exit_status_zero_iff, ← is_clean_iff] at found
  have entry (finding : Finding) : finding.categorised.toLine =
      finding.origin ++ ":" ++ toString finding.line ++ ": " ++ finding.categorised.message := by
    rw [Finding.toLine, Finding.categorised]
    split <;> rfl
  rw [exitStatus, if_neg found, reportLines, if_neg found]
  simp only [entry, and_self]

/-- After a check the status is zero exactly if every path resolves to something that is there and no file has
findings, each checked with the settings that those before it in its group have left. Otherwise it is one, and the
report has a line for each finding, in the order of the files and with a category, and a closing line. -/
theorem report_status [ForeignPatterns] (desk : Desk) (settings : Settings) (overwrite : Bool) (paths : List Path)
    (lines : List LogLine) (session : Session) (batch checked : Batch) (several : ∀ path, paths = [path] → path.name ≠ "-")
    (created : Loading.outcome (create desk.files settings overwrite paths) lines = .ok batch)
    (done : ((batch.check desk).run session).1 = (checked, none)) :
    ∃ results, ((batch.checkAll desk).run session).1.findings = .ok results ∧
      (batch.turns desk.workers).map (·.2) = batch.files ∧
      List.Forall₂ (IsResult desk overwrite batch.settings) (batch.turns desk.workers) results ∧
      (checked.exitStatus = 0 ↔
        (∀ path ∈ paths, desk.files.isFile path = true ∨
          settings.recursive = some true ∧ desk.files.isDirectory path = true) ∧ ∀ found ∈ results, found = []) ∧
      (checked.exitStatus = 0 → checked.reportLines = ["Success! No issues detected."]) ∧
      (checked.exitStatus ≠ 0 → checked.exitStatus = 1 ∧ checked.reportLines = results.flatten.map (fun finding =>
        finding.origin ++ ":" ++ toString finding.line ++ ": " ++ finding.categorised.message) ++
          ["Error! Issues detected."]) ∧
      ∀ finding : Finding, Finding.Categorised finding.categorised.message := by
  obtain ⟨results, ran, files, found, left⟩ := check_done batch checked desk session done
  obtain ⟨loaded, same, whole, made⟩ := create_outcome desk.files settings overwrite paths lines batch created
  let fresh : Batch := { settings := loaded, overwrite, paths }
  have notInput : fresh.readsInput = false := by
    refine Bool.eq_false_iff.mpr fun reads => ?_
    obtain ⟨path, single, dash⟩ := (reads_input_iff fresh).mp reads
    exact several path single dash
  have allPresent : batch.missing = [] ↔ ∀ path ∈ paths, desk.files.isFile path = true ∨
      settings.recursive = some true ∧ desk.files.isDirectory path = true := by
    rw [made, update_missing_nil_iff fresh desk.files notInput whole]
    refine forall₂_congr fun path _ => ?_
    have deep : fresh.settings.recursive = settings.recursive := same.recursive
    rw [FileSystem.isPresent, Bool.or_eq_true, Bool.and_eq_true, deep]
    rcases settings.recursive with _ | _ | _ <;> simp
  have given : batch.overwrite = overwrite := by
    obtain ⟨documents, missing, frame⟩ := update_frame fresh desk.files
    rw [made, frame]
  rw [given] at files
  refine ⟨results, ran, turns_paths batch desk.workers desk.staffed, files, ?_, ?_, ?_, Finding.categorised_message⟩
  · rw [exit_status_zero_iff, left, allPresent, found, List.flatten_eq_nil_iff, and_comm]
  · exact report_lines_clean checked
  · rw [← found]
    exact report_lines_found checked

attribute [local instance] ForeignPatterns.none

/-- A path is missing, and the file behind it has a finding. -/
theorem report_status_prompted : ∃ finding : Finding, finding.line = 2 ∧
    let checked := { promptedBatch with findings := [finding] }
    Loading.outcome (create prompted.files {} true promptedBatch.paths) [] = .ok promptedBatch ∧
    ((promptedBatch.check prompted).run {}).1 = (checked, none) ∧ checked.exitStatus = 1 ∧
    ∃ results, List.Forall₂ (IsResult prompted true {}) [([], ⟨"", ["a.rst"]⟩)] results ∧
      checked.reportLines = results.flatten.map (fun finding =>
        finding.origin ++ ":" ++ toString finding.line ++ ": " ++ finding.categorised.message) ++
          ["Error! Issues detected."] := by
  obtain ⟨finding, line, done⟩ := prompted_checked {}
  refine ⟨finding, line, ?_⟩
  intro checked
  obtain ⟨results, -, -, files, zero, -, found, -⟩ := report_status prompted {} true promptedBatch.paths [] {} promptedBatch
    checked (fun path single => by simp [promptedBatch] at single) prompted_created done
  have missing : checked.exitStatus ≠ 0 := by
    intro clean
    have gone := (zero.mp clean).1 ⟨"", ["gone.rst"]⟩ (by decide)
    revert gone
    decide +kernel
  exact ⟨prompted_created, done, (found missing).1, results, files, (found missing).2⟩

-- A directory with a file that is no document.
def noted : Desk where
  bench :=
    { project := false
      yaml := false
      tools := ⟨fun _ => none, fun _ => ⟨"", ["t"]⟩, fun _ => none⟩
      files := { tree := .directory (.cons "notes.txt" (.file []) .nil), directory := ⟨"/", []⟩ }
      nesting := 9 }

/-- A path that leads through a directory that is not there resolves to a file, and counts as one. -/
theorem report_status_noted :
    let path : Path := ⟨"", ["x", "..", "notes.txt"]⟩
    let batch : Batch := { settings := {}, overwrite := true, paths := [path] }
    noted.files.reach path = .error .missing ∧
    Loading.outcome (create noted.files {} true [path]) [] = .ok batch ∧
    ((batch.check noted).run {}).1 = (batch, none) ∧ batch.exitStatus = 0 := by
  intro path batch
  have found : noted.files.discover false [path] = {} := by
    have sound : noted.files.fault? path = none := by decide +kernel
    have other : noted.files.isDocument path = false := by decide +kernel
    simp [FileSystem.discover, sound, other]
  exact ⟨rfl, create_discovered noted.files {} true [path] [path] [] [] [] rfl rfl rfl found, rfl, rfl⟩

end MarkupLint.Batch
