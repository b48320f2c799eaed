import MarkupLint.Proofs.Path
import MarkupLint.Proofs.Settings.Merge

set_option autoImplicit false

namespace MarkupLint

namespace Settings

def named (name : String) (value : Option SettingValue) : NamedValues :=
  (value.map fun value => (name, value)).toList

def levelValue (level : ReportLevel) : SettingValue := .whole level.rank

def namesValue (names : List String) : SettingValue := .list (names.map .text)

def pathValue (path : Path) : SettingValue := .text (toString path)

def values (settings : Settings) : NamedValues :=
  named "report_level" (settings.reportLevel.map levelValue)
    ++ named "ignore_directives" (settings.directives.map namesValue)
    ++ named "ignore_roles" (settings.roles.map namesValue)
    ++ named "ignore_substitutions" (settings.substitutions.map namesValue)
    ++ named "ignore_languages" (settings.languages.map namesValue)
    ++ named "ignore_messages" (settings.messages.map .pattern)
    ++ named "config_path" (settings.source.map pathValue)
    ++ named "recursive" (settings.recursive.map .flag)
    ++ named "warn_unknown_settings" (settings.warnUnknown.map .flag)

@[simp]
theorem lookup_named (name wanted : String) (value : Option SettingValue) :
    (named name value).lookup wanted = if wanted == name then value else none := by
  cases value with
  | none => simp [named]
  | some value =>
      by_cases same : wanted == name
      · simp [named, List.lookup_cons, same]
      · simp [named, List.lookup_cons, same]

@[simp]
theorem level_of_rank (level : ReportLevel) : ReportLevel.ofRank? level.rank = some level := by
  cases level <;> rfl

@[simp]
theorem read_level_value (level : Option ReportLevel) :
    ReportLevel.read ((level.map levelValue).getD .null) = .ok level := by
  cases level with
  | none => rfl
  | some level => simp [levelValue, ReportLevel.read]

@[simp]
theorem texts_of_names (names : List String) : SettingValue.texts? (names.map .text) = some names := by
  induction names with
  | nil => rfl
  | cons name rest ih => simp [SettingValue.texts?, ih]

theorem read_names_value (names : Option (List String)) (normal : names.map trimNames = names) :
    readNames ((names.map namesValue).getD .null) = .ok names := by
  cases names with
  | none => rfl
  | some names =>
      simpa [namesValue, readNames] using normal

@[simp]
theorem read_pattern_value [ForeignPatterns] (pattern : Option MessagePattern) :
    readPattern ((pattern.map .pattern).getD .null) = .ok pattern := by
  cases pattern <;> rfl

@[simp]
theorem read_flag_value (place : String) (flag : Option Bool) :
    readFlag place ((flag.map .flag).getD .null) = .ok flag := by
  rcases flag with _ | _ | _ <;> rfl

theorem read_path_value (place : String) (path : Option Path) (readable : ∀ given, path = some given → given.Readable) :
    readPath place ((path.map pathValue).getD .null) = .ok path := by
  cases path with
  | none => rfl
  | some given => exact congrArg (fun read => Except.ok (some read)) (Path.of_string_to_string given (readable given rfl))

def Built [ForeignPatterns] (settings : Settings) : Prop := ∃ values, Settings.read values = .ok settings

structure Normal (settings : Settings) : Prop where
  lists : settings.toFileSettings.renewed = settings.toFileSettings
  source : ∀ path, settings.source = some path → path.Readable

theorem path_readable (place : String) (value : SettingValue) (path : Path)
    (found : readPath place value = .ok (some path)) : path.Readable := by
  cases value with
  | text value =>
      cases found
      exact Path.of_string_readable value
  | null | flag | whole | fraction | moment | level | pattern | list | table => cases found

theorem built_normal [ForeignPatterns] (settings : Settings) (built : settings.Built) : settings.Normal := by
  obtain ⟨values, reads⟩ := built
  refine ⟨read_renewed values settings reads, fun path found => ?_⟩
  exact path_readable _ _ path (found ▸ ((read_ok_iff values settings).mp reads).source)

theorem or_else_normal (first second : Settings) (firstNormal : first.Normal) (secondNormal : second.Normal) :
    (first.orElse second).Normal := by
  refine ⟨FileSettings.or_else_renewed _ _ firstNormal.lists secondNormal.lists, ?_⟩
  intro path found
  cases own : first.source with
  | some given => exact firstNormal.source path (by simpa [orElse, own] using found)
  | none => exact secondNormal.source path (by simpa [orElse, own] using found)

-- Under each name stands the setting of that name, and nothing if it is not set.
structure Stored (stored : String → Option SettingValue) (settings : Settings) : Prop where
  reportLevel : stored "report_level" = settings.reportLevel.map levelValue
  directives : stored "ignore_directives" = settings.directives.map namesValue
  roles : stored "ignore_roles" = settings.roles.map namesValue
  substitutions : stored "ignore_substitutions" = settings.substitutions.map namesValue
  languages : stored "ignore_languages" = settings.languages.map namesValue
  messages : stored "ignore_messages" = settings.messages.map .pattern
  source : stored "config_path" = settings.source.map pathValue
  recursive : stored "recursive" = settings.recursive.map .flag
  warnUnknown : stored "warn_unknown_settings" = settings.warnUnknown.map .flag

theorem values_stored (settings : Settings) : Stored (fun name => settings.values.lookup name) settings := by
  constructor <;> simp [values, List.lookup_append]

theorem map_or {α : Type} (first second : Option α) (value : α → SettingValue) :
    (first.map value).or (second.map value) = (first <|> second).map value := by
  cases first <;> rfl

theorem stored_or_else {first second : Settings} {stored other : String → Option SettingValue}
    (own : Stored stored first) (others : Stored other second) :
    Stored (fun name => (stored name).or (other name)) (first.orElse second) where
  reportLevel := by rw [own.reportLevel, others.reportLevel, map_or]; rfl
  directives := by rw [own.directives, others.directives, map_or]; rfl
  roles := by rw [own.roles, others.roles, map_or]; rfl
  substitutions := by rw [own.substitutions, others.substitutions, map_or]; rfl
  languages := by rw [own.languages, others.languages, map_or]; rfl
  messages := by rw [own.messages, others.messages, map_or]; rfl
  source := by rw [own.source, others.source, map_or]; rfl
  recursive := by rw [own.recursive, others.recursive, map_or]; rfl
  warnUnknown := by rw [own.warnUnknown, others.warnUnknown, map_or]; rfl

section Read

variable [ForeignPatterns]

theorem read_stored (named : NamedValues) (settings : Settings) (normal : settings.Normal)
    (stored : Stored (fun name => named.lookup name) settings) : Settings.read named = .ok settings := by
  have lists : ∀ field : FileSettings → Option (List String),
      field settings.toFileSettings.renewed = field settings.toFileSettings := fun field => congrArg field normal.lists
  rw [read_ok_iff]
  constructor
  · constructor <;> simp [given, stored.reportLevel, stored.directives, stored.roles, stored.substitutions,
      stored.languages, stored.messages, read_names_value _ (lists (·.directives)), read_names_value _ (lists (·.roles)),
      read_names_value _ (lists (·.substitutions)), read_names_value _ (lists (·.languages))]
  · rw [given, stored.source, read_path_value _ _ normal.source]
  · rw [given, stored.recursive, read_flag_value]
  · rw [given, stored.warnUnknown, read_flag_value]

theorem read_or_else (first second : Settings) (firstNormal : first.Normal) (secondNormal : second.Normal) :
    Settings.read (first.values ++ second.values) = .ok (first.orElse second) := by
  apply read_stored _ _ (or_else_normal first second firstNormal secondNormal)
  simpa only [List.lookup_append] using stored_or_else (values_stored first) (values_stored second)

def overridden (base added : Settings) (dominant : Bool) : NamedValues :=
  if dominant then added.values ++ base.values else base.values ++ added.values

theorem read_overridden (base added : Settings) (dominant : Bool) (baseNormal : base.Normal)
    (addedNormal : added.Normal) : Settings.read (base.overridden added dominant) = .ok (base.merge added dominant) := by
  rw [merge_eq_or_else base added dominant baseNormal.lists addedNormal.lists, overridden]
  cases dominant with
  | false => exact read_or_else base added baseNormal addedNormal
  | true => exact read_or_else added base addedNormal baseNormal

end Read

theorem or_else_assoc (first second third : Settings) :
    (first.orElse second).orElse third = first.orElse (second.orElse third) := by
  simp [orElse, FileSettings.orElse, Option.or_assoc]

@[simp]
theorem or_else_self (settings : Settings) : settings.orElse settings = settings := by
  simp [orElse, FileSettings.orElse]

@[simp]
theorem or_else_unset (settings : Settings) : settings.orElse {} = settings := by
  simp [orElse, FileSettings.orElse]

@[simp]
theorem unset_or_else (settings : Settings) : orElse {} settings = settings := by
  simp [orElse, FileSettings.orElse]

theorem unset_normal : Normal {} := ⟨rfl, fun _ found => nomatch found⟩

theorem full_normal (file : FileSettings) (normal : file.renewed = file) : file.full.Normal :=
  ⟨normal, fun _ found => nomatch found⟩

theorem merge_or_else (base added : Settings) (dominant : Bool) (baseNormal : base.Normal) (addedNormal : added.Normal) :
    base.merge added dominant = if dominant then added.orElse base else base.orElse added :=
  merge_eq_or_else base added dominant baseNormal.lists addedNormal.lists

theorem merge_normal (base added : Settings) (dominant : Bool) (baseNormal : base.Normal) (addedNormal : added.Normal) :
    (base.merge added dominant).Normal := by
  rw [merge_or_else base added dominant baseNormal addedNormal]
  cases dominant with
  | false => exact or_else_normal base added baseNormal addedNormal
  | true => exact or_else_normal added base addedNormal baseNormal

theorem merge_assoc (first second third : Settings) (dominant : Bool) (firstNormal : first.Normal)
    (secondNormal : second.Normal) (thirdNormal : third.Normal) :
    (first.merge second dominant).merge third dominant = first.merge (second.merge third dominant) dominant := by
  have left := merge_normal first second dominant firstNormal secondNormal
  have right := merge_normal second third dominant secondNormal thirdNormal
  rw [merge_or_else _ third dominant left thirdNormal, merge_or_else first _ dominant firstNormal right,
    merge_or_else first second dominant firstNormal secondNormal,
    merge_or_else second third dominant secondNormal thirdNormal]
  cases dominant with
  | false => exact or_else_assoc first second third
  | true => exact (or_else_assoc third second first).symm

theorem merge_unit (settings : Settings) (dominant : Bool) (normal : settings.Normal) :
    settings.merge {} dominant = settings ∧ merge {} settings dominant = settings := by
  rw [merge_or_else settings {} dominant normal unset_normal, merge_or_else {} settings dominant unset_normal normal]
  cases dominant with
  | false => exact ⟨or_else_unset settings, unset_or_else settings⟩
  | true => exact ⟨unset_or_else settings, or_else_unset settings⟩

end Settings

def FileSettings.Built [ForeignPatterns] (settings : FileSettings) : Prop := ∃ values, FileSettings.read values = .ok settings

namespace Settings

/-- Each setting of a merge is that of the dominant side if it is set there, and that of the other side otherwise: it
comes out of reading the values of both sides anew, which succeeds and changes none. Turning the dominance round is
the same as changing sides, merging is associative and idempotent, settings that set nothing add nothing, and the
settings of a file leave alone what a file cannot say. -/
theorem merge_overrides [ForeignPatterns] (base added later : Settings) (file : FileSettings) (baseBuilt : base.Built)
    (addedBuilt : added.Built) (laterBuilt : later.Built) (fileBuilt : file.Built) :
    base.merge added true =
      { reportLevel := added.reportLevel <|> base.reportLevel
        directives := added.directives <|> base.directives
        roles := added.roles <|> base.roles
        substitutions := added.substitutions <|> base.substitutions
        languages := added.languages <|> base.languages
        messages := added.messages <|> base.messages
        source := added.source <|> base.source
        recursive := added.recursive <|> base.recursive
        warnUnknown := added.warnUnknown <|> base.warnUnknown } ∧
    (∀ dominant, Settings.read (base.overridden added dominant) = .ok (base.merge added dominant)) ∧
    base.merge added false = added.merge base true ∧
    (∀ dominant, (base.merge added dominant).merge later dominant = base.merge (added.merge later dominant) dominant) ∧
    (∀ dominant, base.merge base dominant = base) ∧
    (∀ dominant, base.merge {} dominant = base ∧ merge {} base dominant = base) ∧
    ∀ dominant, Settings.read (base.overridden file.full dominant) = .ok (base.merge file.full dominant) ∧
      base.merge file.full dominant = { base with
        reportLevel := preferred dominant file.reportLevel base.reportLevel
        directives := preferred dominant file.directives base.directives
        roles := preferred dominant file.roles base.roles
        substitutions := preferred dominant file.substitutions base.substitutions
        languages := preferred dominant file.languages base.languages
        messages := preferred dominant file.messages base.messages } := by
  have baseNormal := built_normal base baseBuilt
  have addedNormal := built_normal added addedBuilt
  have laterNormal := built_normal later laterBuilt
  obtain ⟨values, reads⟩ := fileBuilt
  have fileNormal := FileSettings.read_renewed values file reads
  refine ⟨?_, ?_, ?_, ?_, ?_, ?_, ?_⟩
  · exact merge_or_else base added true baseNormal addedNormal
  · exact fun dominant => read_overridden base added dominant baseNormal addedNormal
  · rw [merge_or_else base added false baseNormal addedNormal, merge_or_else added base true addedNormal baseNormal]
    rfl
  · exact fun dominant => merge_assoc base added later dominant baseNormal addedNormal laterNormal
  · intro dominant
    rw [merge_or_else base base dominant baseNormal baseNormal, ite_self]
    exact or_else_self base
  · exact fun dominant => merge_unit base dominant baseNormal
  · exact fun dominant => ⟨read_overridden base file.full dominant baseNormal (full_normal file fileNormal),
      merge_full base file dominant baseNormal.lists fileNormal⟩

def letters : KnownPattern :=
  ⟨"x|y", .either (.both (.char 'x') .empty) (.both (.char 'y') .empty)⟩

attribute [local instance] ForeignPatterns.none

/-- Two settings of a caller, a third one that stays when it is not dominant, and a file. -/
theorem merge_overrides_layered :
    let base : Settings := { roles := some ["a", "b"], source := some ⟨"/", ["d", "e"]⟩, recursive := some true }
    let added : Settings := { reportLevel := some .severe, roles := some ["c"] }
    let later : Settings := { roles := some [], messages := some letters.compiled }
    let file : FileSettings := { reportLevel := some .warning, languages := some ["c"] }
    (base.Built ∧ added.Built ∧ later.Built ∧ file.Built) ∧
    base.merge added true = { base with reportLevel := some .severe, roles := some ["c"] } ∧
    (base.merge added true).merge later true = base.merge { added with roles := some [], messages := some letters.compiled } true ∧
    base.merge file.full false = { base with reportLevel := some .warning, languages := some ["c"] } := by
  intro base added later file
  have baseBuilt : base.Built :=
    ⟨[("ignore_roles", .text " a ,, b"), ("config_path", .text "/d//./e/"), ("recursive", .flag true)], by rfl⟩
  have addedBuilt : added.Built := ⟨[("ignore_roles", .list [.text "", .text "c "]), ("report_level", .whole 4)], by rfl⟩
  have laterBuilt : later.Built := ⟨[("ignore_roles", .text ""), ("ignore_messages", .list [.text "x", .text "y"])], by rfl⟩
  have fileBuilt : file.Built := ⟨[("report_level", .whole 2), ("ignore_languages", .text "c")], by rfl⟩
  obtain ⟨merged, -, -, associative, -, -, ofFile⟩ :=
    merge_overrides base added later file baseBuilt addedBuilt laterBuilt fileBuilt
  refine ⟨⟨baseBuilt, addedBuilt, laterBuilt, fileBuilt⟩, merged, ?_, (ofFile false).2⟩
  rw [associative true]
  rfl

end Settings

end MarkupLint
