import MarkupLint.Proofs.Batch.Independence
import MarkupLint.Proofs.Check.IgnoredMessages
import MarkupLint.Proofs.Pattern.Matching
import MarkupLint.Proofs.Settings.Merge

set_option autoImplicit false

namespace MarkupLint

namespace Settings

@[simp]
theorem given_cons (name other : String) (value : SettingValue) (values : NamedValues) :
    given ((name, value) :: values) other = if other = name then value else given values other := by
  by_cases same : other = name
  · simp [given, same]
  · have differs : (other == name) = false := by simpa using same
    simp [given, List.lookup_cons, same, differs]

def listName : IgnoreKind → String
  | .directives => "ignore_directives"
  | .roles => "ignore_roles"
  | .substitutions => "ignore_substitutions"
  | .languages => "ignore_languages"

def withList (settings : Settings) (names : List String) : IgnoreKind → Settings
  | .directives => { settings with directives := some names }
  | .roles => { settings with roles := some names }
  | .substitutions => { settings with substitutions := some names }
  | .languages => { settings with languages := some names }

section Read

variable [ForeignPatterns]

theorem read_with_list (values : NamedValues) (settings : Settings) (reads : Settings.read values = .ok settings)
    (kind : IgnoreKind) (value : SettingValue) (names : List String) (own : readNames value = .ok (some names)) :
    Settings.read ((listName kind, value) :: values) = .ok (settings.withList names kind) := by
  rw [read_ok_iff] at reads ⊢
  cases kind <;> refine ⟨⟨?_, ?_, ?_, ?_, ?_, ?_⟩, ?_, ?_, ?_⟩ <;>
    simp [listName, withList, own, reads.reportLevel, reads.directives, reads.roles, reads.substitutions, reads.languages,
      reads.messages, reads.source, reads.recursive, reads.warnUnknown]

theorem read_with_messages (values : NamedValues) (settings : Settings) (reads : Settings.read values = .ok settings)
    (value : SettingValue) (pattern : MessagePattern) (own : readPattern value = .ok (some pattern)) :
    Settings.read (("ignore_messages", value) :: values) = .ok { settings with messages := some pattern } := by
  rw [read_ok_iff] at reads ⊢
  refine ⟨⟨?_, ?_, ?_, ?_, ?_, ?_⟩, ?_, ?_, ?_⟩ <;>
    simp [own, reads.reportLevel, reads.directives, reads.roles, reads.substitutions, reads.languages, reads.source,
      reads.recursive, reads.warnUnknown]

theorem list_of_absent (values : NamedValues) (settings : Settings) (reads : Settings.read values = .ok settings)
    (kind : IgnoreKind) (absent : given values (listName kind) = .null) : settings.listOf kind = none := by
  rw [read_ok_iff] at reads
  have held : readNames (given values (listName kind)) = .ok (settings.listOf kind) := by
    cases kind with
    | directives => exact reads.directives
    | roles => exact reads.roles
    | substitutions => exact reads.substitutions
    | languages => exact reads.languages
  rw [absent] at held
  exact (Except.ok.inj held).symm

end Read

theorem ignores_empty_list (settings : Settings) (kind : IgnoreKind) (unset : settings.listOf kind = none) :
    (settings.withList [] kind).ignores = settings.ignores := by
  cases kind <;> simp only [listOf] at unset <;> simp [ignores, withList, unset]

theorem check_document_empty_list (settings : Settings) (kind : IgnoreKind) (unset : settings.listOf kind = none)
    (desk : Desk) (path : Path) (source : String) :
    checkDocument desk (settings.withList [] kind) path source = checkDocument desk settings path source := by
  have same := ignores_empty_list settings kind unset
  have level : (settings.withList [] kind).reportLevel = settings.reportLevel := by cases kind <;> rfl
  have warn : (settings.withList [] kind).warnUnknown = settings.warnUnknown := by cases kind <;> rfl
  rw [checkDocument, checkDocument, same, level, warn]

end Settings

@[simp]
theorem Ignores.add_all_messages (ignores : Ignores) (sources : List String) :
    (ignores.addAll sources).messages = ignores.messages := by
  induction sources generalizing ignores with
  | nil => rfl
  | cons source rest ih => exact ih (ignores.addInline source)

namespace Check

open Suppression (kept readMessages)

section Silent

variable {α : Type} (pattern : MessagePattern)

def FindsNothing (action : Checking Report) : Prop :=
  ∀ session, session.ignores.messages = some pattern → (action.run session).1.findings = []

theorem finds_nothing_pure (report : Report) (none : report.findings = []) : FindsNothing pattern (pure report) :=
  fun _ _ => none

theorem finds_nothing_bind (first : Checking α) (next : α → Checking Report) (steady : Steady first)
    (silent : ∀ value, FindsNothing pattern (next value)) : FindsNothing pattern (first >>= next) := by
  intro session ignored
  refine silent (first.run session).1 (first.run session).2 ?_
  obtain ⟨sources, grown⟩ := steady.grows session
  rw [grown, Ignores.add_all_messages, ignored]

theorem finds_nothing_get (next : Session → Checking Report)
    (silent : ∀ session, session.ignores.messages = some pattern → FindsNothing pattern (next session)) :
    FindsNothing pattern (get >>= next) :=
  fun session ignored => silent session ignored session ignored

variable (everywhere : ∀ message, pattern.foundIn message = true)
include everywhere

theorem without_ignored_all (report : Report) : withoutIgnored (some pattern) report = ⟨[], report.failure⟩ := by
  simp [withoutIgnored, Report.filter, everywhere]

theorem read_messages_all (origin : Origin) (text : String) : readMessages origin (some pattern) text = .empty := by
  rw [read_messages_some, List.filter_eq_nil_iff.mpr (by simp [everywhere])]
  rfl

-- The steps of a check keep what is ignored, so at its end both the findings in the code and the messages are taken out.
theorem check_text_silent (bench : Workbench) (nested : Request → Checking Report)
    (nestedSteady : ∀ request, Steady (nested request)) (request : Request) :
    FindsNothing pattern (checkText bench nested request) := by
  apply finds_nothing_bind _ _ _ (steady_read_settings _)
  intro _
  apply finds_nothing_get
  intro session _
  apply finds_nothing_bind _ _ _ (steady_prepare_registry bench)
  intro _
  apply finds_nothing_get
  intro prepared _
  apply finds_nothing_bind _ _ _ (steady_inherited.adopt _)
  intro _
  split
  · split
    · apply finds_nothing_bind _ _ _ (steady_log _)
      intro _
      apply finds_nothing_get
      intro last ignored
      apply finds_nothing_pure
      rw [checkText.messagesOf, ignored, read_messages_all pattern everywhere]
      rfl
    · exact finds_nothing_pure _ _ rfl
  · apply finds_nothing_bind _ _ _ (steady_inherited.survey bench _ _ _ _)
    intro seen
    cases seen with
    | error failure => exact finds_nothing_pure _ _ rfl
    | ok seen =>
        have block := steady_inherited.check_block bench nested (displayed request.origin) request.reportRank false
          fun inner _ => nestedSteady inner
        apply finds_nothing_bind _ _ _ (steady_inherited.each _ (block _) seen.blocks)
        intro found
        apply finds_nothing_get
        intro last ignored
        apply finds_nothing_get
        intro same ignoredStill
        apply finds_nothing_pure
        rw [checkText.messagesOf, ignored, ignoredStill, without_ignored_all pattern everywhere,
          read_messages_all pattern everywhere]
        cases found.failure <;> rfl

theorem check_silent (bench : Workbench) (request : Request) : FindsNothing pattern (check bench request) := by
  rw [check, depthOf]
  exact check_text_silent pattern everywhere bench _ (steady_check_within bench _) request

theorem check_document_silent (settings : Settings) (ignored : settings.ignores.messages = some pattern)
    (desk : Desk) (path : Path) (source : String) (session : Session) :
    ((checkDocument desk settings path source).run session).1.findings = [] := by
  obtain ⟨request, run, -⟩ := check_document_run desk settings path source
  rw [run]
  exact check_silent pattern everywhere desk.bench request _ ignored

end Silent

end Check

namespace Settings

open Check (withoutIgnored)
open Suppression (readMessages)

def emptyPattern : MessagePattern := KnownPattern.compiled ⟨"", .empty⟩

@[simp]
theorem empty_pattern_everywhere (message : String) : emptyPattern.foundIn message = true :=
  (Pattern.found_in_iff .empty message).mpr ⟨[], [], message.toList, rfl, rfl⟩

theorem messages_of_absent [ForeignPatterns] (values : NamedValues) (settings : Settings)
    (reads : Settings.read values = .ok settings) (absent : given values "ignore_messages" = .null) : settings.ignores.messages = none := by
  have held := ((read_ok_iff values settings).mp reads).messages
  rw [absent] at held
  exact (Except.ok.inj held).symm

/-- A list of names that is empty is as good as none. A list of patterns that is empty ignores everything, so that
what is reported is the same only where there is nothing to report. -/
theorem read_empty_list [ForeignPatterns] (values : NamedValues) (settings : Settings)
    (reads : Settings.read values = .ok settings) :
    (∀ kind, given values (listName kind) = .null →
      ∃ emptied, Settings.read ((listName kind, .list []) :: values) = .ok emptied ∧ emptied.ignores = settings.ignores ∧
        ∀ desk path source, checkDocument desk emptied path source = checkDocument desk settings path source) ∧
    (given values "ignore_messages" = .null →
      ∃ emptied, Settings.read (("ignore_messages", .list []) :: values) = .ok emptied ∧
        (∀ desk path source session, ((checkDocument desk emptied path source).run session).1.findings = []) ∧
        (∀ report, withoutIgnored emptied.ignores.messages report = withoutIgnored settings.ignores.messages report ↔
          report.findings = []) ∧
        ∀ origin text, readMessages origin emptied.ignores.messages text =
            readMessages origin settings.ignores.messages text ↔
          readMessages origin settings.ignores.messages text = .empty) := by
  constructor
  · intro kind absent
    have unset := list_of_absent values settings reads kind absent
    exact ⟨_, read_with_list values settings reads kind (.list []) [] rfl, ignores_empty_list settings kind unset,
      check_document_empty_list settings kind unset⟩
  · intro absent
    have unset := messages_of_absent values settings reads absent
    refine ⟨_, read_with_messages values settings reads (.list []) emptyPattern rfl, ?_, fun report => ?_,
      fun origin text => ?_⟩
    · exact fun desk path source session =>
        Check.check_document_silent emptyPattern empty_pattern_everywhere _ rfl desk path source session
    · rw [unset]
      change withoutIgnored (some emptyPattern) report = _ ↔ _
      rw [Check.without_ignored_all emptyPattern empty_pattern_everywhere]
      obtain ⟨findings, failure⟩ := report
      simp [withoutIgnored, Report.filter, eq_comm]
    · change readMessages origin (some emptyPattern) text = _ ↔ _
      rw [Check.read_messages_all emptyPattern empty_pattern_everywhere, eq_comm]

attribute [local instance] ForeignPatterns.none

/-- With no settings but an empty list of patterns, a finding that would be reported is lost. -/
theorem read_empty_list_lost :
    Settings.read [] = .ok {} ∧
      ∃ emptied, Settings.read [("ignore_messages", .list [])] = .ok emptied ∧
        withoutIgnored emptied.ignores.messages ⟨[⟨"a", 1, "m"⟩], none⟩ ≠
          withoutIgnored ({} : Settings).ignores.messages ⟨[⟨"a", 1, "m"⟩], none⟩ := by
  obtain ⟨-, messages⟩ := read_empty_list [] {} rfl
  obtain ⟨emptied, reads, -, filters, -⟩ := messages rfl
  exact ⟨rfl, emptied, reads, fun same => by cases (filters _).mp same⟩

end Settings

end MarkupLint
