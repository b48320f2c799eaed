import MarkupLint.Failure
import MarkupLint.FileTree
import MarkupLint.Format.Ini
import MarkupLint.Format.TomlReader
import MarkupLint.Settings.Value

set_option autoImplicit false

namespace MarkupLint

def Toml.Value.kindName : Toml.Value → String
  | .text _ => "str"
  | .whole _ => "int"
  | .fraction _ => "float"
  | .flag _ => "bool"
  | .moment (.date _) => "datetime.date"
  | .moment (.time _) => "datetime.time"
  | .moment (.dateTime ..) => "datetime.datetime"
  | .array _ => "list"
  | .table _ => "dict"

inductive LoadError where
  | badPath (cause : PathError)
  | noFile (path : Path)
  | unreadable (path : Path)
  | noPath (path : Path)
  | notToml
  | notUtf8 (cause : Text.Utf8Error)
  | ini (file : Path) (fault : Ini.Fault)
  | iniValue (fault : Ini.ValueFault)
  | toml (text : List Char) (fault : Toml.Fault)
  | noTable (kind : String)
  | notSection (kind : String)
  | noNames (kind : String)
  | notName (kind : String)
  | setting (cause : SettingError)
deriving DecidableEq, Repr

namespace LoadError

def message : LoadError → String
  | .badPath cause => cause.message
  | .noFile path => toString path
  | .unreadable path => "[Errno 13] Permission denied: " ++ path.shown
  | .noPath path => "[Errno 2] Passed config path not found.: " ++ path.shown
  | .notToml => "File is not a TOML file"
  | .notUtf8 cause => cause.message
  | .ini file fault => fault.message (file.shown)
  | .iniValue fault => fault.message
  | .toml text fault => fault.message text
  | .noTable kind => "'" ++ kind ++ "' object has no attribute 'get'"
  | .notSection kind =>
      "rstcheck_core.config._RstcheckConfigTOMLFile() argument after ** must be a mapping, not " ++ kind
  | .noNames kind => "'" ++ kind ++ "' object is not iterable"
  | .notName kind => "unhashable type: '" ++ kind ++ "'"
  | .setting cause => cause.message

end LoadError

end MarkupLint
