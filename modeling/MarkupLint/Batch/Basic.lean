import MarkupLint.Batch.Discovery
import MarkupLint.FileCheck

set_option autoImplicit false

namespace MarkupLint

structure Batch where
  settings : Settings
  overwrite : Bool
  paths : List Path
  files : List Path := []
  missing : List Path := []
  findings : List Finding := []

namespace Batch

def mergeFrom [ForeignPatterns] (files : FileSystem) (overwrite warnUnknown : Bool) (settings : Settings) (path : Path) :
    Loading Settings := do
  match ← Settings.loadPath files { warnUnknown } path with
  | none =>
      Settings.log .warning "Config file was empty or not found."
      return settings
  | some found => return settings.merge found.full overwrite

def loadSettings [ForeignPatterns] (batch : Batch) (files : FileSystem) (warnUnknown : Bool) (path : Path) :
    Loading Batch := do
  return { batch with settings := ← mergeFrom files batch.overwrite warnUnknown batch.settings path }

def readsInput (batch : Batch) : Bool :=
  match batch.paths with
  | [path] => path.name = "-"
  | _ => false

structure Updated where
  batch : Batch
  lines : List LogLine := []
  fault : Option PathError := none

def update (batch : Batch) (files : FileSystem) : Updated :=
  if batch.readsInput then { batch := { batch with files := batch.paths } }
  else
    let recursive := batch.settings.recursive.getD false
    let sifted := sift files.fault? (files.isPresent recursive) [] batch.paths
    let found := if sifted.fault.isSome then { fault := sifted.fault }
      else files.discover recursive sifted.stay
    { batch := { batch with files := found.documents, missing := sifted.missing }
      lines := sifted.missing.map (missingWarning recursive)
      fault := found.fault }

def create [ForeignPatterns] (files : FileSystem) (settings : Settings) (overwrite : Bool) (paths : List Path) :
    Loading Batch := do
  let settings ← match settings.source with
    | none => pure settings
    | some path => mergeFrom files overwrite (settings.warnUnknown.getD false) settings path
  let updated := update { settings, overwrite, paths } files
  modify (· ++ updated.lines)
  match updated.fault with
  | some fault => throw (.badPath fault)
  | none => return updated.batch

structure Outcome where
  findings : Except FileError (List (List Finding))
  settings : Settings

def checkInTurn [ForeignPatterns] (desk : Desk) (overwrite : Bool) (settings : Settings) :
    List Path → Checking Outcome
  | [] => return ⟨.ok [], settings⟩
  | path :: rest => do
      let first ← checkFile desk overwrite settings path
      match first.findings with
      | .error error => return ⟨.error error, first.settings⟩
      | .ok found =>
          let others ← checkInTurn desk overwrite first.settings rest
          return ⟨others.findings.map (found :: ·), others.settings⟩

-- How many files have a copy of the settings in common, so that there are at most four copies for each worker.
def shareSize (workers count : Nat) : Nat := (count + (4 * workers - 1)) / (4 * workers)

def groups (size : Nat) : Nat → List Path → List (List Path)
  | 0, _ => []
  | _ + 1, [] => []
  | fuel + 1, files => files.take size :: groups size fuel (files.drop size)

def checkApart [ForeignPatterns] (desk : Desk) (overwrite : Bool) (settings : Settings) (session : Session) :
    List (List Path) → Except FileError (List (List Finding))
  | [] => .ok []
  | group :: rest => do
      let first ← ((checkInTurn desk overwrite settings group).run session).1.findings
      let others ← checkApart desk overwrite settings session rest
      return first ++ others

def checkAll [ForeignPatterns] (batch : Batch) (desk : Desk) : Checking Outcome := do
  match desk.batchFault? with
  | some error => return ⟨.error error, batch.settings⟩
  | none =>
      if batch.files.length ≤ 1 then checkInTurn desk batch.overwrite batch.settings batch.files
      else
        let parts := groups (shareSize desk.workers batch.files.length) batch.files.length batch.files
        return ⟨checkApart desk batch.overwrite batch.settings (← get) parts, batch.settings⟩

def collect (batch : Batch) (findings : List (List Finding)) : Batch :=
  { batch with findings := findings.flatten }

def check [ForeignPatterns] (batch : Batch) (desk : Desk) : Checking (Batch × Option FileError) := do
  let outcome ← batch.checkAll desk
  let grown := { batch with settings := outcome.settings }
  match outcome.findings with
  -- The findings are replaced only when all files have been checked.
  | .ok findings => return (grown.collect findings, none)
  | .error error => return (grown, some error)

def isClean (batch : Batch) : Bool := batch.findings.isEmpty && batch.missing.isEmpty

def exitStatus (batch : Batch) : Nat := if batch.isClean then 0 else 1

def reportLines (batch : Batch) : List String :=
  if batch.isClean then ["Success! No issues detected."]
  else batch.findings.map (·.categorised.toLine) ++ ["Error! Issues detected."]

def reportText (batch : Batch) : String := String.join (batch.reportLines.map (· ++ "\n"))

end Batch

end MarkupLint
