import MarkupLint.Settings.Basic

set_option autoImplicit false

namespace MarkupLint

namespace FileSettings

def orElse (first second : FileSettings) : FileSettings :=
  { reportLevel := first.reportLevel <|> second.reportLevel
    directives := first.directives <|> second.directives
    roles := first.roles <|> second.roles
    substitutions := first.substitutions <|> second.substitutions
    languages := first.languages <|> second.languages
    messages := first.messages <|> second.messages }

def renewed (settings : FileSettings) : FileSettings :=
  { settings with
    directives := settings.directives.map Settings.trimNames
    roles := settings.roles.map Settings.trimNames
    substitutions := settings.substitutions.map Settings.trimNames
    languages := settings.languages.map Settings.trimNames }

def full (settings : FileSettings) : Settings := { settings with }

end FileSettings

namespace Settings

def orElse (first second : Settings) : Settings :=
  { first.toFileSettings.orElse second.toFileSettings with
    source := first.source <|> second.source
    recursive := first.recursive <|> second.recursive
    warnUnknown := first.warnUnknown <|> second.warnUnknown }

def merge (base added : Settings) (dominant : Bool) : Settings :=
  let merged := if dominant then added.orElse base else base.orElse added
  { merged with toFileSettings := merged.toFileSettings.renewed }

end Settings

end MarkupLint
