import MarkupLint.Settings.Merge
import MarkupLint.Proofs.Text.Blank

set_option autoImplicit false

namespace MarkupLint

namespace Settings

theorem trim_names_trimmed (names : List String) (name : String) (member : name ∈ trimNames names) :
    Text.strip name = name ∧ name ≠ "" := by
  simp only [trimNames, List.mem_filter, List.mem_map, decide_eq_true_eq] at member
  obtain ⟨⟨source, -, rfl⟩, filled⟩ := member
  exact ⟨Text.strip_strip source, filled⟩

@[simp]
theorem trim_names_idem (names : List String) : trimNames (trimNames names) = trimNames names := by
  have unchanged : (trimNames names).map Text.strip = trimNames names := by
    rw [List.map_congr_left fun name member => (trim_names_trimmed names name member).1]
    exact List.map_id _
  rw [trimNames, unchanged, List.filter_eq_self]
  exact fun name member => decide_eq_true (trim_names_trimmed names name member).2

theorem read_names_normal (value : SettingValue) (names : Option (List String))
    (reads : readNames value = .ok names) : names.map trimNames = names := by
  cases value with
  | null => cases reads; rfl
  | text value =>
      cases reads
      exact congrArg some (trim_names_idem _)
  | list items =>
      rw [readNames] at reads
      cases texts : SettingValue.texts? items with
      | none => simp [texts] at reads
      | some found =>
          simp only [texts, Except.ok.injEq] at reads
          rw [← reads]
          exact congrArg some (trim_names_idem found)
  | flag | whole | fraction | moment | level | pattern | table => cases reads

end Settings

theorem except_bind_ok_iff {ε α β : Type} (first : Except ε α) (next : α → Except ε β) (result : β) :
    (first >>= next) = .ok result ↔ ∃ value, first = .ok value ∧ next value = .ok result := by
  cases first with
  | error cause => exact iff_of_false nofun (by simp)
  | ok value => exact ⟨fun reached => ⟨value, rfl, reached⟩, fun ⟨_, same, reached⟩ => by cases same; exact reached⟩

namespace FileSettings

open Settings (readNames readPattern given)

section Read

variable [ForeignPatterns]

structure ReadFrom (values : Settings.NamedValues) (settings : FileSettings) : Prop where
  reportLevel : ReportLevel.read (given values "report_level") = .ok settings.reportLevel
  directives : readNames (given values "ignore_directives") = .ok settings.directives
  roles : readNames (given values "ignore_roles") = .ok settings.roles
  substitutions : readNames (given values "ignore_substitutions") = .ok settings.substitutions
  languages : readNames (given values "ignore_languages") = .ok settings.languages
  messages : readPattern (given values "ignore_messages") = .ok settings.messages

theorem read_ok_iff (values : Settings.NamedValues) (settings : FileSettings) :
    FileSettings.read values = .ok settings ↔ ReadFrom values settings := by
  constructor
  · intro reads
    obtain ⟨reportLevel, readLevel, reads⟩ := (except_bind_ok_iff _ _ _).mp reads
    obtain ⟨directives, readDirectives, reads⟩ := (except_bind_ok_iff _ _ _).mp reads
    obtain ⟨roles, readRoles, reads⟩ := (except_bind_ok_iff _ _ _).mp reads
    obtain ⟨substitutions, readSubstitutions, reads⟩ := (except_bind_ok_iff _ _ _).mp reads
    obtain ⟨languages, readLanguages, reads⟩ := (except_bind_ok_iff _ _ _).mp reads
    obtain ⟨messages, readMessages, reads⟩ := (except_bind_ok_iff _ _ _).mp reads
    cases reads
    exact ⟨readLevel, readDirectives, readRoles, readSubstitutions, readLanguages, readMessages⟩
  · intro held
    simp only [FileSettings.read, held.reportLevel, held.directives, held.roles, held.substitutions, held.languages,
      held.messages]
    rfl

theorem read_renewed (values : Settings.NamedValues) (settings : FileSettings)
    (reads : FileSettings.read values = .ok settings) : settings.renewed = settings := by
  have held := (read_ok_iff values settings).mp reads
  simp only [renewed, Settings.read_names_normal _ _ held.directives, Settings.read_names_normal _ _ held.roles,
    Settings.read_names_normal _ _ held.substitutions, Settings.read_names_normal _ _ held.languages]

end Read

theorem map_or_else (first second : Option (List String)) (firstNormal : first.map Settings.trimNames = first)
    (secondNormal : second.map Settings.trimNames = second) :
    (first <|> second).map Settings.trimNames = (first <|> second) := by
  cases first with
  | none => exact secondNormal
  | some names => exact firstNormal

theorem or_else_renewed (first second : FileSettings) (firstNormal : first.renewed = first)
    (secondNormal : second.renewed = second) : (first.orElse second).renewed = first.orElse second := by
  -- Each list of a normal form is normal: a field of both sides of the equations given.
  have normal : ∀ field : FileSettings → Option (List String),
      field first.renewed = field first ∧ field second.renewed = field second :=
    fun field => ⟨congrArg field firstNormal, congrArg field secondNormal⟩
  simp only [renewed, orElse,
    map_or_else _ _ (normal directives).1 (normal directives).2,
    map_or_else _ _ (normal roles).1 (normal roles).2,
    map_or_else _ _ (normal substitutions).1 (normal substitutions).2,
    map_or_else _ _ (normal languages).1 (normal languages).2]

end FileSettings

namespace Settings

theorem gather_ok_iff {α β : Type} (first : Except SettingError α) (second : Except (List FieldFault) β) (both : α × β) :
    gather first second = .ok both ↔ first = .ok both.1 ∧ second = .ok both.2 := by
  obtain ⟨left, right⟩ := both
  rcases first with ((_ | _ | faults) | value) <;> rcases second with others | other <;> simp [gather]

section Read

variable [ForeignPatterns]

structure ReadFrom (values : NamedValues) (settings : Settings) : Prop
    extends FileSettings.ReadFrom values settings.toFileSettings where
  source : readPath "config_path" (given values "config_path") = .ok settings.source
  recursive : readFlag "recursive" (given values "recursive") = .ok settings.recursive
  warnUnknown : readFlag "warn_unknown_settings" (given values "warn_unknown_settings") = .ok settings.warnUnknown

theorem read_ok_iff (values : NamedValues) (settings : Settings) :
    Settings.read values = .ok settings ↔ ReadFrom values settings := by
  constructor
  · intro reads
    obtain ⟨all, gathered, whole⟩ := (except_bind_ok_iff _ _ _).mp reads
    obtain ⟨flagged, warnUnknown⟩ := (gather_ok_iff _ _ _).mp gathered
    obtain ⟨located, recursive⟩ := (gather_ok_iff _ _ _).mp flagged
    obtain ⟨readFile, source⟩ := (gather_ok_iff _ _ _).mp located
    cases whole
    exact ⟨(FileSettings.read_ok_iff values _).mp readFile, source, recursive, warnUnknown⟩
  · intro held
    have readFile := (FileSettings.read_ok_iff values settings.toFileSettings).mpr held.toReadFrom
    simp only [Settings.read, readFile, held.source, held.recursive, held.warnUnknown]
    rfl

theorem read_renewed (values : NamedValues) (settings : Settings) (reads : Settings.read values = .ok settings) :
    settings.toFileSettings.renewed = settings.toFileSettings :=
  FileSettings.read_renewed values _
    ((FileSettings.read_ok_iff _ _).mpr ((read_ok_iff values settings).mp reads).toReadFrom)

end Read

theorem merge_eq_or_else (base added : Settings) (dominant : Bool)
    (baseNormal : base.toFileSettings.renewed = base.toFileSettings)
    (addedNormal : added.toFileSettings.renewed = added.toFileSettings) :
    base.merge added dominant = if dominant then added.orElse base else base.orElse added := by
  cases dominant with
  | false =>
      simp only [merge, Bool.false_eq_true, if_false, orElse, FileSettings.or_else_renewed _ _ baseNormal addedNormal]
  | true => simp only [merge, if_true, orElse, FileSettings.or_else_renewed _ _ addedNormal baseNormal]

def preferred {α : Type} (overwrite : Bool) (found own : Option α) : Option α :=
  if overwrite then found <|> own else own <|> found

theorem merge_full (settings : Settings) (found : FileSettings) (overwrite : Bool)
    (normal : settings.toFileSettings.renewed = settings.toFileSettings) (foundNormal : found.renewed = found) :
    settings.merge found.full overwrite = { settings with
      reportLevel := preferred overwrite found.reportLevel settings.reportLevel
      directives := preferred overwrite found.directives settings.directives
      roles := preferred overwrite found.roles settings.roles
      substitutions := preferred overwrite found.substitutions settings.substitutions
      languages := preferred overwrite found.languages settings.languages
      messages := preferred overwrite found.messages settings.messages } := by
  rw [merge_eq_or_else settings found.full overwrite normal foundNormal]
  cases overwrite <;> simp [orElse, FileSettings.orElse, FileSettings.full, preferred]

end Settings

end MarkupLint
