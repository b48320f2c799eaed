import MarkupLint.Failure
import MarkupLint.Text.Lines

set_option autoImplicit false

namespace MarkupLint

structure Dependency where
  package : String
  minimum : List Int
  extra : String
deriving DecidableEq, Repr

inductive DependencyError where
  | unknown (package : String)
  | version (cause : Text.NumberError)
  | notInstalled (dependency : Dependency)
  | noTomlReader (dependency : Dependency)
deriving DecidableEq, Repr

namespace Dependency

def builder : Dependency := ⟨"sphinx", [5, 0], "sphinx"⟩

def tomlReader : Dependency := ⟨"tomli", [2, 0], "toml"⟩

def find? (package : String) : Option Dependency :=
  [builder, tomlReader].find? fun dependency => dependency.package = package

def shown (dependency : Dependency) : String :=
  "\x7b'min_version': (" ++ String.intercalate ", " (dependency.minimum.map toString) ++ "), 'extra': "
    ++ Text.quote dependency.extra ++ "\x7d"

def readVersion (version : String) : Except Text.NumberError (List Int) :=
  ((Text.splitOnChar '.' version.toList).take 3).mapM fun part => Text.readInteger (String.ofList part)

def isSupported (package version : String) (isThere : Bool) : Except DependencyError Bool :=
  if !isThere then .ok false
  else
    match readVersion version, find? package with
    | .error cause, _ => .error (.version cause)
    | .ok _, none => .error (.unknown package)
    | .ok numbers, some dependency => .ok (!List.lex numbers dependency.minimum (· < ·))

def guard (installed : List (String × Bool)) (package : String) : Except DependencyError Unit :=
  match installed.lookup package, find? package with
  | none, _ => .error (.unknown package)
  | some true, _ => .ok ()
  | some false, none => .error (.unknown package)
  | some false, some dependency => .error (.notInstalled dependency)

def guardToml (hasReader : Bool) (installed : List (String × Bool)) : Except DependencyError Unit :=
  if hasReader then .ok ()
  else
    match installed.lookup tomlReader.package with
    | none => .error (.unknown tomlReader.package)
    | some true => .ok ()
    | some false => .error (.noTomlReader tomlReader)

end Dependency

namespace DependencyError

def installMessage (dependency : Dependency) : String :=
  "Install rstcheck with " ++ dependency.shown ++ " extra (rstcheck[" ++ dependency.shown
    ++ "]) or install a supported version of " ++ dependency.package ++ " yourself."

def message : DependencyError → String
  | .unknown package => Text.quote package
  | .version cause => cause.message
  | .notInstalled dependency =>
      "No supported version of " ++ dependency.package ++ " installed. " ++ installMessage dependency
  | .noTomlReader dependency =>
      "tomllib could not be imported and no supported version of tomli installed. "
        ++ installMessage dependency

end DependencyError

end MarkupLint
