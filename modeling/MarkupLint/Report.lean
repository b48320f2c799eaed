import MarkupLint.Failure
import MarkupLint.Finding

set_option autoImplicit false

namespace MarkupLint

structure Report where
  findings : List Finding
  failure : Option Failure
deriving DecidableEq, Repr

namespace Report

def empty : Report := ⟨[], none⟩

def ofFindings (findings : List Finding) : Report := ⟨findings, none⟩

def failed (failure : Failure) : Report := ⟨[], some failure⟩

def append (first second : Report) : Report :=
  match first.failure with
  | some _ => first
  | none => ⟨first.findings ++ second.findings, second.failure⟩

instance : Append Report := ⟨append⟩

def filter (wanted : Finding → Bool) (report : Report) : Report :=
  { report with findings := report.findings.filter wanted }

def collect {α : Type} (read : α → Except Failure (Option Finding)) : List α → Report
  | [] => empty
  | piece :: rest =>
      match read piece with
      | .ok (some finding) => ofFindings [finding] ++ collect read rest
      | .ok none => collect read rest
      | .error failure => failed failure

def refine (change : Finding → Except Failure (Option Finding)) (report : Report) : Report :=
  collect change report.findings ++ ⟨[], report.failure⟩

def each {σ α : Type} (check : α → StateM σ Report) : List α → StateM σ Report
  | [] => pure empty
  | piece :: rest => do
      let first ← check piece
      match first.failure with
      | some _ => pure first
      | none => do pure (first ++ (← each check rest))

end Report

end MarkupLint
