import MarkupLint.Ignores
import MarkupLint.Settings.Value
import MarkupLint.Text.Blank

set_option autoImplicit false

namespace MarkupLint

structure FileSettings where
  reportLevel : Option ReportLevel := none
  directives : Option (List String) := none
  roles : Option (List String) := none
  substitutions : Option (List String) := none
  languages : Option (List String) := none
  messages : Option MessagePattern := none

structure Settings extends FileSettings where
  -- The file or directory whose settings are taken, instead of those near each checked file.
  source : Option Path := none
  recursive : Option Bool := none
  warnUnknown : Option Bool := none

-- Reads a level: nothing for no value, and the lowest level for an empty text.
def ReportLevel.read : SettingValue → Except SettingError (Option ReportLevel)
  | .null => .ok .none
  | .level level => .ok (some level)
  | .text "" => .ok (some .info)
  | .text text =>
      match ofText? text with
      | some level => .ok (some level)
      | .none => .error .invalidLevel
  | .whole rank =>
      match ofRank? rank with
      | some level => .ok (some level)
      | .none => .error .invalidLevel
  | _ => .error .invalidLevel

namespace Settings

def trimNames (names : List String) : List String :=
  (names.map Text.strip).filter (· ≠ "")

def splitNames (text : String) : List String :=
  trimNames ((Text.splitOnChar ',' text.toList).map String.ofList)

def readNames : SettingValue → Except SettingError (Option (List String))
  | .null => .ok none
  | .text value => .ok (some (splitNames value))
  | .list items =>
      match SettingValue.texts? items with
      | some names => .ok (some (trimNames names))
      | none => .error .notNames
  | _ => .error .notNames

def joinPatterns : SettingValue → Except SettingError SettingValue
  | .null => .ok .null
  | .pattern pattern => .ok (.pattern pattern)
  | .text value => .ok (.text value)
  | .list items =>
      match SettingValue.texts? items with
      | some patterns => .ok (.text (String.intercalate "|" patterns))
      | none => .error .notNames
  | _ => .error .notNames

def compilePattern [ForeignPatterns] : SettingValue → Except SettingError (Option MessagePattern)
  | .pattern pattern => .ok (some pattern)
  | .text value =>
      match MessagePattern.compile? value with
      | some pattern => .ok (some pattern)
      | none => .error (.invalid [⟨"ignore_messages", "Input should be a valid regular expression"⟩])
  | _ => .ok none

def readPattern [ForeignPatterns] (value : SettingValue) : Except SettingError (Option MessagePattern) := do
  compilePattern (← joinPatterns value)

def fieldTypes (names patterns : FieldType) : List (String × FieldType) :=
  [("report_level", .textOrWhole), ("ignore_directives", names), ("ignore_roles", names),
    ("ignore_substitutions", names), ("ignore_languages", names), ("ignore_messages", patterns)]

def iniTypes : List (String × FieldType) := fieldTypes .text .text

def tomlTypes : List (String × FieldType) := fieldTypes .texts .textsOrText

end Settings

open Settings in
def FileSettings.read [ForeignPatterns] (values : NamedValues) : Except SettingError FileSettings := do
  let reportLevel ← ReportLevel.read (given values "report_level")
  let directives ← readNames (given values "ignore_directives")
  let roles ← readNames (given values "ignore_roles")
  let substitutions ← readNames (given values "ignore_substitutions")
  let languages ← readNames (given values "ignore_languages")
  let messages ← readPattern (given values "ignore_messages")
  return { reportLevel, directives, roles, substitutions, languages, messages }

open Settings in
def FileSettings.readTyped [ForeignPatterns] (types : List (String × FieldType)) (values : NamedValues) :
    Except SettingError FileSettings := do
  FileSettings.read (← (FieldType.checkAll types values).mapError .invalid)

namespace Settings

def flagWords : List (String × Bool) :=
  [("0", false), ("off", false), ("f", false), ("false", false), ("n", false), ("no", false),
    ("1", true), ("on", true), ("t", true), ("true", true), ("y", true), ("yes", true)]

def flagOf? : SettingValue → Option Bool
  | .text word => flagWords.lookup (String.ofList (word.toList.map Char.toLower))
  | value =>
      match value.whole? with
      | some 0 => some false
      | some 1 => some true
      | _ => none

def readFlag (place : String) : SettingValue → Except (List FieldFault) (Option Bool)
  | .null => .ok none
  | value =>
      match flagOf? value with
      | some flag => .ok (some flag)
      | none => .error [⟨place, "Input should be a valid boolean"⟩]

def readPath (place : String) : SettingValue → Except (List FieldFault) (Option Path)
  | .null => .ok none
  | .text value => .ok (some (Path.ofString value))
  | _ => .error [⟨place, "Input is not a valid path"⟩]

-- Faults are gathered over all settings, but any other error comes first.
def gather {α β : Type} : Except SettingError α → Except (List FieldFault) β → Except SettingError (α × β)
  | .ok first, .ok second => .ok (first, second)
  | .ok _, .error faults => .error (.invalid faults)
  | .error (.invalid faults), .error others => .error (.invalid (faults ++ others))
  | .error cause, _ => .error cause

def read [ForeignPatterns] (values : NamedValues) : Except SettingError Settings := do
  let located := gather (FileSettings.read values) (readPath "config_path" (given values "config_path"))
  let flagged := gather located (readFlag "recursive" (given values "recursive"))
  let (((file, source), recursive), warnUnknown) ←
    gather flagged (readFlag "warn_unknown_settings" (given values "warn_unknown_settings"))
  return { file with source, recursive, warnUnknown }

def ignores (settings : Settings) : Ignores :=
  { messages := settings.messages
    languages := settings.languages.getD []
    directives := settings.directives.getD []
    roles := settings.roles.getD []
    substitutions := settings.substitutions.getD [] }

-- The settings after a check that has added names to their lists. A list that is not set cannot grow.
def withLists (settings : Settings) (ignores : Ignores) : Settings :=
  { settings with
    languages := settings.languages.map fun _ => ignores.languages
    directives := settings.directives.map fun _ => ignores.directives
    roles := settings.roles.map fun _ => ignores.roles
    substitutions := settings.substitutions.map fun _ => ignores.substitutions }

end Settings

end MarkupLint
