import MarkupLint.FileTree
import MarkupLint.Log
import MarkupLint.Settings.LoadError
import MarkupLint.Settings.Merge

set_option autoImplicit false

namespace MarkupLint

abbrev Loading := ExceptT LoadError (StateM (List LogLine))

namespace Settings

def log (level : LogLevel) (text : String) : Loading Unit := modify (· ++ [⟨level, text⟩])

structure LoadOptions where
  warnMissing : Bool := true
  warnUnknown : Bool := false
deriving DecidableEq, Repr

def isNone (path : Path) : Bool := path.name = "NONE"

def logNone : Loading Unit := log .info "Config path is set to 'NONE'. No config file is loaded."

def logMissing (options : LoadOptions) (header : String) (path : Path) : Loading Unit :=
  log (if options.warnMissing then .warning else .info)
    ("Config file has no [" ++ header ++ "] section: '" ++ toString path ++ "'.")

def logUnknown (unknown : List String) (path : Path) : Loading Unit := do
  if !unknown.isEmpty then
    log .warning ("Unknown setting(s) [" ++ String.intercalate ", " unknown ++ "] found in file: '"
      ++ toString path ++ "'.")

def isKnown (name : String) : Bool := (iniTypes.lookup name).isSome

def liftError {α ε : Type} (cause : ε → LoadError) : Except ε α → Loading α
  | .ok value => pure value
  | .error error => throw (cause error)

def readText (bytes : List UInt8) : Loading (List Char) := liftError .notUtf8 (Text.decodeUtf8 bytes)

def guardFault : Option PathError → Loading Unit
  | some fault => throw (.badPath fault)
  | none => pure ()

def iniSection : String := "rstcheck"

-- A file that cannot be read is taken for an empty one.
def iniBytes (files : FileSystem) (path : Path) : Loading (List UInt8) := do
  guardFault (files.fault? path)
  if files.isFile path then return (files.read? path).getD []
  else throw (.noFile (files.resolve path))

def readIni [ForeignPatterns] (options : LoadOptions) (path resolved : Path) (bytes : List UInt8) :
    Loading (Option FileSettings) := do
  let document ← liftError (.ini resolved) (Ini.Document.ofText (← readText bytes))
  if !document.hasSection iniSection then
    logMissing options "rstcheck" path
    return none
  let values ← liftError .iniValue (document.options iniSection)
  if options.warnUnknown then
    logUnknown (((values.map (·.1)).filter (!isKnown ·)).map Text.quote) path
  some <$> liftError .setting
    (FileSettings.readTyped iniTypes (values.map fun (name, value) => (name, .text value)))

def loadIni [ForeignPatterns] (files : FileSystem) (options : LoadOptions) (path : Path) :
    Loading (Option FileSettings) := do
  if isNone path then
    logNone
    return none
  readIni options path (files.resolve path) (← iniBytes files path)

def showParts (kind : String) (parts : List String) : String :=
  "datetime." ++ kind ++ "(" ++ String.intercalate ", " parts ++ ")"

def timeParts (time : Toml.TimeOfDay) : List String :=
  let smaller := if time.micros ≠ 0 then [time.second, time.micros]
    else if time.second ≠ 0 then [time.second]
    else []
  ([time.hour, time.minute] ++ smaller).map toString

def dateParts (date : Toml.Date) : List String := [date.year, date.month, date.day].map toString

def showOffset (minutes : Int) : String :=
  if minutes = 0 then "datetime.timezone.utc"
  else
    let seconds := minutes * 60
    let days := Int.fdiv seconds 86400
    let rest := Int.fmod seconds 86400
    let parts := (if days = 0 then [] else ["days=" ++ toString days])
      ++ (if rest = 0 then [] else ["seconds=" ++ toString rest])
    showParts "timezone" [showParts "timedelta" parts]

def showMoment : Toml.Moment → String
  | .date date => showParts "date" (dateParts date)
  | .time time => showParts "time" (timeParts time)
  | .dateTime date time offset =>
      showParts "datetime" (dateParts date ++ timeParts time
        ++ (offset.map fun minutes => "tzinfo=" ++ showOffset minutes).toList)

mutual

def ofToml : Toml.Value → SettingValue
  | .text value => .text value
  | .whole value => .whole value
  | .fraction value => .fraction value
  | .flag value => .flag value
  | .moment moment => .moment (Toml.Value.kindName (.moment moment)) (showMoment moment)
  | .array items => .list (ofTomlItems items)
  | .table entries => .table (ofTomlEntries entries)

def ofTomlItems : List Toml.Value → List SettingValue
  | [] => []
  | item :: rest => ofToml item :: ofTomlItems rest

def ofTomlEntries : List (String × Toml.Value) → List (String × SettingValue)
  | [] => []
  | (name, value) :: rest => (name, ofToml value) :: ofTomlEntries rest

end

def showValue : Toml.Value → String
  | .text value => Text.quote value
  | .whole value => toString value
  | .fraction value => value.render
  | .flag value => if value then "True" else "False"
  | .moment moment => showMoment moment
  | .array _ => "[]"
  | .table _ => ""

def unknownIn : Toml.Value → Except LoadError (List String)
  | .table entries => .ok (((entries.map (·.1)).filter (!isKnown ·)).map Text.quote)
  -- A section should be a table; of others the parts are taken for names.
  | .text value => .ok (value.toList.map fun c => Text.quote c.toString)
  | .array items =>
      match items.find? fun
        | .table _ | .array _ => true
        | _ => false with
      | some item => .error (.notName item.kindName)
      | none => .ok ((items.filter fun
          | .text value => !isKnown value
          | _ => true).map showValue)
  | value => .error (.noNames value.kindName)

def tomlSection? (table : Toml.Table) : Except LoadError (Option Toml.Value) :=
  match table.lookup "tool" with
  | none => .ok none
  | some (.table tools) => .ok (tools.lookup "rstcheck")
  | some value => .error (.noTable value.kindName)

def readSection [ForeignPatterns] : Toml.Value → Except LoadError FileSettings
  | .table entries =>
      match FileSettings.readTyped tomlTypes (ofTomlEntries entries) with
      | .ok settings => .ok settings
      | .error cause => .error (.setting cause)
  | value => .error (.notSection value.kindName)

def tomlBytes (files : FileSystem) (path : Path) : Loading (List UInt8) := do
  guardFault (files.fault? path)
  if !files.isFile path then
    log .error ("Config file is not a file: '" ++ toString path ++ "'.")
    throw (.noFile (files.resolve path))
  else if !(files.resolve path).hasExtension ".toml" then
    log .error ("Config file is not a TOML file: '" ++ toString path ++ "'.")
    throw .notToml
  else
    match files.read? path with
    | some bytes => return bytes
    | none => throw (.unreadable (files.resolve path))

def readToml [ForeignPatterns] (options : LoadOptions) (path : Path) (bytes : List UInt8) :
    Loading (Option FileSettings) := do
  let text ← readText bytes
  let table ← liftError (.toml text) (Toml.read text)
  match ← liftError id (tomlSection? table) with
  | none =>
      logMissing options "tool.rstcheck" path
      return none
  | some value =>
      if options.warnUnknown then logUnknown (← liftError id (unknownIn value)) path
      some <$> liftError id (readSection value)

def loadToml [ForeignPatterns] (files : FileSystem) (options : LoadOptions) (path : Path) :
    Loading (Option FileSettings) := do
  if isNone path then
    logNone
    return none
  readToml options path (← tomlBytes files path)

def loadFile [ForeignPatterns] (files : FileSystem) (options : LoadOptions) (path : Path) :
    Loading (Option FileSettings) := do
  if isNone path then
    logNone
    return none
  if path.hasExtension ".toml" then loadToml files options path else loadIni files options path

def ownName : String := ".rstcheck.cfg"

def candidates : List String := [ownName, "pyproject.toml", "setup.cfg"]

def loadFirst [ForeignPatterns] (files : FileSystem) (options : LoadOptions) (directory : Path) :
    List String → Loading (Option FileSettings)
  | [] => return none
  | name :: rest => do
      guardFault (files.fault? (directory.child name))
      let path := files.resolve (directory.child name)
      if files.isFile path then
        let found ← loadFile files
          { options with warnMissing := options.warnMissing || name = ownName } path
        if found.isSome then return found
      loadFirst files options directory rest

def loadDirectory [ForeignPatterns] (files : FileSystem) (options : LoadOptions) (directory : Path) :
    Loading (Option FileSettings) := do
  if isNone directory then
    logNone
    return none
  let found ← loadFirst files options directory candidates
  if found.isNone then
    log .info ("No config section in supported config files found in directory: '"
      ++ toString directory ++ "'.")
  return found

def loadNearest [ForeignPatterns] (files : FileSystem) (options : LoadOptions) : List Path → Loading (Option FileSettings)
  | [] => return none
  | directory :: rest => do
      let found ← loadDirectory files options directory
      if found.isSome then return found
      loadNearest files options rest

def ancestors (directory : Path) : List Path :=
  (List.range (directory.names.length + 1)).map fun up =>
    { directory with names := directory.names.take (directory.names.length - up) }

def loadTree [ForeignPatterns] (files : FileSystem) (options : LoadOptions) (directory : Path) :
    Loading (Option FileSettings) := do
  if isNone directory then
    logNone
    return none
  guardFault (files.resolveFault? directory)
  let found ← loadNearest files options (ancestors (files.resolve directory))
  if found.isNone then
    log .info ("No config section in supported config files found in directory tree: '"
      ++ toString directory ++ "'.")
  return found

structure PathOptions where
  searchTree : Bool := false
  warnMissingInFile : Bool := true
  warnMissingInDirectory : Bool := false
  warnUnknown : Bool := false
deriving DecidableEq, Repr

def loadPath [ForeignPatterns] (files : FileSystem) (options : PathOptions) (path : Path) :
    Loading (Option FileSettings) := do
  if isNone path then
    logNone
    return none
  guardFault (files.fault? path)
  let resolved := files.resolve path
  let inDirectory : LoadOptions := ⟨options.warnMissingInDirectory, options.warnUnknown⟩
  if files.isFile resolved then
    loadFile files ⟨options.warnMissingInFile, options.warnUnknown⟩ resolved
  else if files.isDirectory resolved then
    if options.searchTree then loadTree files inDirectory resolved
    else loadDirectory files inDirectory resolved
  else throw (.noPath path)

-- The settings for the files of a directory, if others than the given ones apply: those near the directory
-- merged into the given ones, unless these name their source.
def forDirectory [ForeignPatterns] (files : FileSystem) (settings : Settings) (overwrite : Bool) (directory : Path) :
    Loading (Option Settings) := do
  if settings.source.isSome then return none
  match ← loadTree files ⟨false, false⟩ directory with
  | none => return none
  | some found => return some (settings.merge found.full overwrite)

end Settings

end MarkupLint
