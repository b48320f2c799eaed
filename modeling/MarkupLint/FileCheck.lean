import MarkupLint.Check
import MarkupLint.ProjectDirectory
import MarkupLint.Settings.Load
import MarkupLint.SourceFile

set_option autoImplicit false

namespace MarkupLint

structure ProjectFault where
  kind : String
  message : String
deriving DecidableEq, Repr

structure Desk where
  bench : Workbench
  input : String := ""
  projectText : Path → ProjectText := fun _ => {}
  -- What keeps the project in a directory, or one without a directory, from being opened.
  opening : Option Path → Option ProjectFault := fun _ => none
  workers : Nat := 1
  staffed : 0 < workers := by exact Nat.one_pos

inductive FileError where
  | load (cause : LoadError)
  | source (cause : SourceError)
  | path (cause : PathError)
  | project (cause : ProjectFault)
  | check (cause : Failure)
deriving DecidableEq, Repr

namespace FileError

def message : FileError → String
  | .load cause => cause.message
  | .source cause => cause.message
  | .path cause => cause.message
  | .project cause => cause.message
  | .check cause => cause.message

end FileError

namespace Desk

def files (desk : Desk) : FileSystem := desk.bench.files

def textFor (desk : Desk) (directory : Path) : ProjectText :=
  match desk.files.projectDirectory? directory with
  | .ok (some top) => if desk.bench.project then desk.projectText top else {}
  | _ => {}

def registryFor (desk : Desk) (directory : Path) : Registry :=
  if desk.bench.project then .ofProject (desk.textFor directory) else .empty

def faultFor? (desk : Desk) (directory : Path) : Option FileError :=
  if desk.bench.project then
    match desk.files.projectDirectory? directory with
    | .error cause => some (.path cause)
    | .ok top => (desk.opening top).map .project
  else none

-- Before the files of a batch are checked, a project is opened that has no directory.
def batchFault? (desk : Desk) : Option FileError :=
  if desk.bench.project then (desk.opening none).map .project else none

end Desk

def Report.complete (report : Report) : Except FileError (List Finding) :=
  match report.failure with
  | some failure => .error (.check failure)
  | none => .ok report.findings

structure FileReport where
  findings : Except FileError (List Finding)
  settings : Settings

def checkDocument (desk : Desk) (settings : Settings) (path : Path) (source : String) :
    Checking Report := do
  modify fun session => { session with
    ignores := settings.ignores
    registry := desk.registryFor path.parent }
  check desk.bench
    { source := source
      origin := .file path
      reportRank := (settings.reportLevel.getD .info).rank
      warnUnknown := settings.warnUnknown.getD false
      text := desk.textFor path.parent }

def checkFile [ForeignPatterns] (desk : Desk) (overwrite : Bool) (settings : Settings) (path : Path) :
    Checking FileReport := do
  let (loaded, lines) := (Settings.forDirectory desk.files settings overwrite path.parent).run []
  modify (·.log lines)
  match loaded with
  | .error cause => return ⟨.error (.load cause), settings⟩
  | .ok merged =>
      match desk.files.readSource desk.input path with
      | .error cause => return ⟨.error (.source cause), settings⟩
      | .ok source =>
          match desk.faultFor? path.parent with
          | some error => return ⟨.error error, settings⟩
          | none =>
              let report ← checkDocument desk (merged.getD settings) path source
              let grown := settings.withLists (← get).ignores
              return ⟨report.complete, if merged.isSome then settings else grown⟩

end MarkupLint
