import MarkupLint.Batch.Basic
import MarkupLint.Proofs.FileTree
import MarkupLint.Proofs.Settings.Growth
import MarkupLint.Proofs.Settings.Loading
import Mathlib.Tactic.Choose

set_option autoImplicit false

namespace MarkupLint

-- The check of a document is known here by its lemmas alone; looking into it takes very long.
attribute [local irreducible] check

theorem check_document_run (desk : Desk) (settings : Settings) (path : Path) (source : String) :
    ∃ request : Request, (∀ session, (checkDocument desk settings path source).run session
      = (check desk.bench request).run
        { session with ignores := settings.ignores, registry := desk.registryFor path.parent }) ∧
      request.source = source :=
  ⟨_, fun _ => rfl, rfl⟩

theorem check_document_fresh (desk : Desk) (settings : Settings) (path : Path) (source : String)
    (first second : Session) :
    ((checkDocument desk settings path source).run first).1 = ((checkDocument desk settings path source).run second).1 ∧
    ((checkDocument desk settings path source).run first).2.ignores
      = ((checkDocument desk settings path source).run second).2.ignores := by
  obtain ⟨request, run, -⟩ := check_document_run desk settings path source
  have same : Session.Alike
      { first with ignores := settings.ignores, registry := desk.registryFor path.parent }
      { second with ignores := settings.ignores, registry := desk.registryFor path.parent } := ⟨rfl, rfl⟩
  have steady := steady_check desk.bench request
  rw [run, run]
  exact ⟨steady.result _ _ same, (steady.alike _ _ same).ignores⟩

theorem check_document_ignores (desk : Desk) (settings : Settings) (path : Path) (source : String)
    (session : Session) : ∃ inner, ((checkDocument desk settings path source).run session).2.ignores
      = settings.ignores.addAll (source :: inner) := by
  obtain ⟨request, run, rfl⟩ := check_document_run desk settings path source
  rw [run]
  exact check_ignores desk.bench request _

section Files

variable [ForeignPatterns]

def checkedAlone (desk : Desk) (overwrite : Bool) (settings : Settings) (path : Path) : FileReport :=
  ((checkFile desk overwrite settings path).run {}).1

-- The document of a file that is checked with the given settings themselves, not with a copy.
def sharingDocument (desk : Desk) (overwrite : Bool) (settings : Settings) (path : Path) : Option String :=
  match Loading.outcome (Settings.forDirectory desk.files settings overwrite path.parent) [],
    desk.files.readSource desk.input path, desk.faultFor? path.parent with
  | .ok none, .ok source, none => some source
  | _, _, _ => none

theorem check_file_run (desk : Desk) (overwrite : Bool) (settings : Settings) (path : Path) (session : Session) :
    ((checkFile desk overwrite settings path).run session).1 =
      match Loading.outcome (Settings.forDirectory desk.files settings overwrite path.parent) [] with
      | .error cause => ⟨.error (.load cause), settings⟩
      | .ok merged =>
          match desk.files.readSource desk.input path with
          | .error cause => ⟨.error (.source cause), settings⟩
          | .ok source =>
              match desk.faultFor? path.parent with
              | some error => ⟨.error error, settings⟩
              | none =>
                  let checked := (checkDocument desk (merged.getD settings) path source).run {}
                  ⟨checked.1.complete, if merged.isSome then settings else settings.withLists checked.2.ignores⟩ := by
  change ((match Loading.outcome (Settings.forDirectory desk.files settings overwrite path.parent) [] with
    | .error cause => pure ⟨.error (.load cause), settings⟩
    | .ok merged => _ : Checking FileReport).run _).1 = _
  cases Loading.outcome (Settings.forDirectory desk.files settings overwrite path.parent) [] with
  | error cause => rfl
  | ok merged =>
      cases desk.files.readSource desk.input path with
      | error cause => rfl
      | ok source =>
          cases desk.faultFor? path.parent with
          | some error => rfl
          | none =>
              let opened := session.log ((Settings.forDirectory desk.files settings overwrite path.parent).run []).2
              obtain ⟨sameReport, sameIgnores⟩ :=
                check_document_fresh desk (merged.getD settings) path source opened {}
              let checked := (checkDocument desk (merged.getD settings) path source).run opened
              change (⟨checked.1.complete, if merged.isSome then settings else settings.withLists checked.2.ignores⟩ :
                FileReport) = _
              rw [sameReport, sameIgnores]

theorem check_file_fresh (desk : Desk) (overwrite : Bool) (settings : Settings) (path : Path) (session : Session) :
    ((checkFile desk overwrite settings path).run session).1 = checkedAlone desk overwrite settings path := by
  rw [checkedAlone, check_file_run, check_file_run]

theorem checked_alone_settings (desk : Desk) (overwrite : Bool) (settings : Settings) (path : Path) :
    ∃ read : List String, read.head? = sharingDocument desk overwrite settings path ∧
      (checkedAlone desk overwrite settings path).settings = settings.extended read := by
  rw [checkedAlone, check_file_run, sharingDocument]
  cases Loading.outcome (Settings.forDirectory desk.files settings overwrite path.parent) [] with
  | error cause => exact ⟨[], rfl, (settings.extended_nil).symm⟩
  | ok merged =>
      cases desk.files.readSource desk.input path with
      | error cause => cases merged <;> exact ⟨[], rfl, (settings.extended_nil).symm⟩
      | ok source =>
          cases desk.faultFor? path.parent with
          | some error => cases merged <;> exact ⟨[], rfl, (settings.extended_nil).symm⟩
          | none =>
              cases merged with
              | some copy =>
                  exact ⟨[], rfl, (settings.extended_nil).symm⟩
              | none =>
                  obtain ⟨inner, grown⟩ := check_document_ignores desk settings path source {}
                  refine ⟨source :: inner, rfl, ?_⟩
                  rw [← Settings.with_lists_add_all, ← grown]
                  rfl

end Files

namespace Batch

section Turns

variable [ForeignPatterns]

def checkedInTurn (desk : Desk) (overwrite : Bool) (settings : Settings) : List Path → Outcome
  | [] => ⟨.ok [], settings⟩
  | path :: rest =>
      let first := checkedAlone desk overwrite settings path
      match first.findings with
      | .error error => ⟨.error error, first.settings⟩
      | .ok found =>
          let others := checkedInTurn desk overwrite first.settings rest
          ⟨others.findings.map (found :: ·), others.settings⟩

def reached (desk : Desk) (overwrite : Bool) (settings : Settings) : List Path → List Path
  | [] => []
  | path :: rest =>
      match (checkedAlone desk overwrite settings path).findings with
      | .error _ => [path]
      | .ok _ => path :: reached desk overwrite settings rest

theorem head_reached (desk : Desk) (overwrite : Bool) (settings : Settings) (path : Path) (rest : List Path) :
    path ∈ reached desk overwrite settings (path :: rest) := by
  rw [reached]
  cases (checkedAlone desk overwrite settings path).findings with
  | error error => exact List.mem_singleton_self path
  | ok found => exact List.mem_cons_self

theorem check_in_turn_run (desk : Desk) (overwrite : Bool) (settings : Settings) (paths : List Path)
    (session : Session) :
    ((checkInTurn desk overwrite settings paths).run session).1 = checkedInTurn desk overwrite settings paths := by
  -- The session differs from file to file, and so do the settings that are handed on.
  induction paths generalizing settings session with
  | nil => rfl
  | cons path rest ih =>
      rw [checkedInTurn, ← check_file_fresh desk overwrite settings path session, checkInTurn]
      change ((match ((checkFile desk overwrite settings path).run session).1.findings with
        | .error error => pure ⟨.error error, ((checkFile desk overwrite settings path).run session).1.settings⟩
        | .ok found => _ : Checking Outcome).run ((checkFile desk overwrite settings path).run session).2).1 = _
      cases ((checkFile desk overwrite settings path).run session).1.findings with
      | error error => rfl
      | ok found =>
          dsimp only
          rw [← ih _ ((checkFile desk overwrite settings path).run session).2]
          rfl

section Runs

variable (desk : Desk) (overwrite : Bool)

theorem checked_in_turn_extended (settings : Settings) (paths : List Path) :
    ∃ read, (checkedInTurn desk overwrite settings paths).settings = settings.extended read := by
  induction paths generalizing settings with
  | nil => exact ⟨[], settings.extended_nil.symm⟩
  | cons path rest ih =>
      obtain ⟨first, -, grown⟩ := checked_alone_settings desk overwrite settings path
      rw [checkedInTurn]
      cases (checkedAlone desk overwrite settings path).findings with
      | error error => exact ⟨first, grown⟩
      | ok found =>
          obtain ⟨later, afterwards⟩ := ih (checkedAlone desk overwrite settings path).settings
          refine ⟨first ++ later, ?_⟩
          rw [← Settings.extended_append, ← grown]
          exact afterwards

theorem checked_in_turn_unchanged (settings : Settings) (paths : List Path)
    (unchanged : ∀ path ∈ reached desk overwrite settings paths,
      (checkedAlone desk overwrite settings path).settings = settings) :
    checkedInTurn desk overwrite settings paths
      = ⟨paths.mapM fun path => (checkedAlone desk overwrite settings path).findings, settings⟩ := by
  induction paths with
  | nil => rfl
  | cons path rest ih =>
      rw [checkedInTurn, List.mapM_cons]
      rw [reached] at unchanged
      cases result : (checkedAlone desk overwrite settings path).findings with
      | error error =>
          rw [result] at unchanged
          have kept := unchanged path (List.mem_singleton_self path)
          dsimp only
          rw [kept]
          rfl
      | ok found =>
          rw [result] at unchanged
          have kept := unchanged path List.mem_cons_self
          have later := ih fun other member => unchanged other (List.mem_cons_of_mem path member)
          dsimp only
          rw [kept, later]
          cases rest.mapM fun path => (checkedAlone desk overwrite settings path).findings <;> rfl

-- Names that a file adds stay to the end, so a run that ends with the same settings has left them alone
-- all the way.
theorem reached_unchanged (settings : Settings) (paths : List Path)
    (same : (checkedInTurn desk overwrite settings paths).settings = settings) :
    ∀ path ∈ reached desk overwrite settings paths,
      (checkedAlone desk overwrite settings path).settings = settings := by
  induction paths with
  | nil => exact fun _ member => nomatch member
  | cons path rest ih =>
      obtain ⟨first, -, grown⟩ := checked_alone_settings desk overwrite settings path
      rw [checkedInTurn] at same
      rw [reached]
      cases result : (checkedAlone desk overwrite settings path).findings with
      | error error =>
          rw [result] at same
          intro other member
          rw [List.mem_singleton.mp member]
          exact same
      | ok found =>
          rw [result] at same
          obtain ⟨later, afterwards⟩ :=
            checked_in_turn_extended desk overwrite (checkedAlone desk overwrite settings path).settings rest
          -- What the run adds is what this file adds and what those behind it add; all of it is nothing.
          have kept : (checkedAlone desk overwrite settings path).settings = settings := by
            have whole : settings.extended (first ++ later) = settings := by
              rw [← Settings.extended_append, ← grown, ← afterwards]
              exact same
            rw [grown]
            exact Settings.extended_append_eq_self settings first later whole
          dsimp only at same
          rw [kept] at same
          intro other member
          rcases List.mem_cons.mp member with rfl | behind
          · exact kept
          · exact ih same other behind

theorem check_apart_single (settings : Settings) (session : Session) (paths : List Path) :
    checkApart desk overwrite settings session (paths.map fun path => [path])
      = paths.mapM fun path => (checkedAlone desk overwrite settings path).findings := by
  induction paths with
  | nil => rfl
  | cons path rest ih =>
      rw [List.map_cons, checkApart, List.mapM_cons, ih, check_in_turn_run, checkedInTurn]
      cases (checkedAlone desk overwrite settings path).findings with
      | error error => rfl
      | ok found => cases rest.mapM fun path => (checkedAlone desk overwrite settings path).findings <;> rfl

end Runs

/-- Files in turn are reported as if each were checked alone, and leave the settings as they were, exactly if no file
that is come to has a comment that names something for a list that is set. Files apart always are. -/
theorem check_in_turn_independent_iff (desk : Desk) (overwrite : Bool) (settings : Settings) :
    ∃ read : Path → List String,
      (∀ path, (read path).head? = sharingDocument desk overwrite settings path) ∧
      (∀ path, (checkedAlone desk overwrite settings path).settings = settings.extended (read path)) ∧
      ∀ (session : Session) (paths : List Path),
        let outcome := ((checkInTurn desk overwrite settings paths).run session).1
        let alone := paths.mapM fun path => (checkedAlone desk overwrite settings path).findings
        (outcome.findings = alone ∧ outcome.settings = settings ↔
          ∀ path ∈ reached desk overwrite settings paths, ∀ source ∈ read path, ∀ kind,
            (settings.listOf kind).isSome → Inline.names kind source = []) ∧
        checkApart desk overwrite settings session (paths.map fun path => [path]) = alone := by
  choose read head grown using checked_alone_settings desk overwrite settings
  refine ⟨read, head, grown, ?_⟩
  intro session paths
  refine ⟨?_, check_apart_single desk overwrite settings session paths⟩
  rw [check_in_turn_run]
  constructor
  · rintro ⟨-, same⟩ path member
    rw [← Settings.extended_eq_self_iff, ← grown]
    exact reached_unchanged desk overwrite settings paths same path member
  · intro silent
    have unchanged : ∀ path ∈ reached desk overwrite settings paths,
        (checkedAlone desk overwrite settings path).settings = settings := by
      intro path member
      rw [grown, Settings.extended_eq_self_iff]
      exact silent path member
    rw [checked_in_turn_unchanged desk overwrite settings paths unchanged]
    exact ⟨rfl, rfl⟩

end Turns

-- A file with a comment, a file with the role that the comment names, and no settings near them.
def commented : Desk where
  bench :=
    { project := false
      yaml := false
      tools := ⟨fun _ => none, fun _ => ⟨"", ["t"]⟩, fun _ => none⟩
      files :=
        { tree := .directory (.cons "a.rst" (.file (plainBytes ".. rstcheck: ignore-roles=foo\n"))
            (.cons "b.rst" (.file (plainBytes ":foo:\x60x\x60\n")) .nil))
          directory := ⟨"/", []⟩ }
      nesting := 9 }

attribute [local instance] ForeignPatterns.none

/-- The given list of roles takes on the role in the comment. -/
theorem check_in_turn_commented :
    let settings : Settings := { roles := some ["bar"] }
    let paths : List Path := [⟨"", ["a.rst"]⟩, ⟨"", ["b.rst"]⟩]
    let outcome := ((checkInTurn commented true settings paths).run {}).1
    ¬ (outcome.findings = paths.mapM (fun path => (checkedAlone commented true settings path).findings) ∧
      outcome.settings = settings) := by
  intro settings paths outcome
  obtain ⟨read, head, -, turns⟩ := check_in_turn_independent_iff commented true settings
  have shared : sharingDocument commented true settings ⟨"", ["a.rst"]⟩ = some ".. rstcheck: ignore-roles=foo\n" := by
    rfl
  have first : ".. rstcheck: ignore-roles=foo\n" ∈ read ⟨"", ["a.rst"]⟩ := by
    apply List.mem_of_head?
    rw [head, shared]
  have comeTo : (⟨"", ["a.rst"]⟩ : Path) ∈ reached commented true settings paths := head_reached _ _ _ _ _
  rw [(turns {} paths).1]
  intro silent
  have none := silent _ comeTo _ first .roles rfl
  revert none
  decide +kernel

end Batch

end MarkupLint
