import MarkupLint.Report

set_option autoImplicit false

namespace MarkupLint.Report

variable {α : Type}

theorem collect_cons_ok (read : α → Except Failure (Option Finding)) (piece : α) (rest : List α)
    (found : Option Finding) (reads : read piece = .ok found) :
    collect read (piece :: rest) =
      ⟨found.toList ++ (collect read rest).findings, (collect read rest).failure⟩ := by
  cases found with
  | none => simp only [collect, reads, Option.toList_none, List.nil_append]
  | some finding => simp only [collect, reads, Option.toList_some]; rfl

theorem collect_cons_error (read : α → Except Failure (Option Finding)) (piece : α) (rest : List α)
    (failure : Failure) (fails : read piece = .error failure) :
    collect read (piece :: rest) = failed failure := by
  simp only [collect, fails]

theorem collect_findings (read : α → Except Failure (Option Finding)) (pieces : List α) :
    (collect read pieces).findings =
      (pieces.takeWhile fun piece => (read piece).isOk).filterMap fun piece => (read piece).toOption.join := by
  induction pieces with
  | nil => rfl
  | cons piece rest ih =>
      cases reads : read piece with
      | error failure =>
          rw [collect_cons_error read piece rest failure reads]
          simp [failed, reads, Except.isOk, Except.toBool]
      | ok found =>
          rw [collect_cons_ok read piece rest found reads]
          cases found <;> simp [reads, Except.isOk, Except.toBool, Except.toOption, ih]

theorem collect_failure_none_iff (read : α → Except Failure (Option Finding)) (pieces : List α) :
    (collect read pieces).failure = none ↔ ∀ piece ∈ pieces, ∀ failure, read piece ≠ .error failure := by
  induction pieces with
  | nil => simp [collect, empty]
  | cons piece rest ih =>
      cases reads : read piece with
      | error failure =>
          rw [collect_cons_error read piece rest failure reads]
          simp [failed, reads]
      | ok found =>
          rw [collect_cons_ok read piece rest found reads]
          simp [reads, ih]

-- Where only pieces that read well are left out, the reading ends as before.
theorem collect_filter_failure (read : α → Except Failure (Option Finding)) (keep : α → Bool) (pieces : List α)
    (kept : ∀ piece ∈ pieces, ∀ failure, read piece = .error failure → keep piece = true) :
    (collect read (pieces.filter keep)).failure = (collect read pieces).failure := by
  induction pieces with
  | nil => rfl
  | cons piece rest ih =>
      have later := ih fun other member => kept other (List.mem_cons_of_mem piece member)
      cases reads : read piece with
      | error failure =>
          rw [List.filter_cons_of_pos (kept piece List.mem_cons_self failure reads),
            collect_cons_error read piece _ failure reads, collect_cons_error read piece _ failure reads]
      | ok found =>
          rw [collect_cons_ok read piece rest found reads]
          by_cases stays : keep piece = true
          · rw [List.filter_cons_of_pos stays, collect_cons_ok read piece _ found reads]
            exact later
          · rw [List.filter_cons_of_neg stays]
            exact later

theorem collect_map (read : α → Except Failure (Option Finding)) (found : α → Finding) (pieces : List α)
    (reads : ∀ piece ∈ pieces, read piece = .ok (some (found piece))) :
    collect read pieces = ofFindings (pieces.map found) := by
  induction pieces with
  | nil => rfl
  | cons piece rest ih =>
      have later := ih fun other member => reads other (List.mem_cons_of_mem piece member)
      rw [collect_cons_ok read piece rest _ (reads piece List.mem_cons_self), later]
      rfl

theorem refine_map (change : Finding → Except Failure (Option Finding)) (changed : Finding → Finding) (report : Report)
    (changes : ∀ finding ∈ report.findings, change finding = .ok (some (changed finding))) :
    report.refine change = ⟨report.findings.map changed, report.failure⟩ := by
  rw [refine, collect_map change changed report.findings changes]
  exact congrArg (Report.mk · report.failure) (List.append_nil _)

theorem refine_failed (change : Finding → Except Failure (Option Finding)) (failure : Failure) (report : Report)
    (fails : ∀ finding, change finding = .error failure) :
    report.refine change = if report.findings = [] then ⟨[], report.failure⟩ else failed failure := by
  rw [refine]
  cases report.findings with
  | nil => rfl
  | cons finding rest =>
      rw [collect_cons_error change finding rest failure (fails finding)]
      rfl

theorem each_cons_run {σ : Type} (check : α → StateM σ Report) (piece : α) (rest : List α) (state : σ) :
    (each check (piece :: rest)).run state =
      if ((check piece).run state).1.failure.isSome then (check piece).run state
      else
        let later := (each check rest).run ((check piece).run state).2
        (((check piece).run state).1 ++ later.1, later.2) := by
  rw [each, StateT.run_bind]
  generalize (check piece).run state = first
  obtain ⟨⟨findings, failure⟩, after⟩ := first
  cases failure with
  | some failure => rfl
  | none => rfl

end MarkupLint.Report
