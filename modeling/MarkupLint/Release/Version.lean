import MarkupLint.Failure
import MarkupLint.Text.Digit
import MarkupLint.Text.Search

set_option autoImplicit false

namespace MarkupLint

inductive ReleaseKind where
  | patch
  | minor
  | major
deriving DecidableEq, Repr

namespace ReleaseKind

def names : ReleaseKind → List String
  | .patch => ["patch", "bugfix"]
  | .minor => ["minor", "feature"]
  | .major => ["major", "breaking"]

def ofName? (name : String) : Option ReleaseKind :=
  [.patch, .minor, .major].find? fun kind => kind.names.contains name

end ReleaseKind

inductive VersionError where
  | invalidKind (name : String)
  | unreadable (version : String)
  | number (cause : Text.NumberError)
  | tooLong
deriving DecidableEq, Repr

namespace VersionError

def message : VersionError → String
  | .invalidKind name => "Invalid version increase type: " ++ name
  | .unreadable version => "Unparsable version: " ++ version
  | .number cause => cause.message
  | .tooLong => "Exceeds the limit (" ++ toString Text.maxDigits
      ++ " digits) for integer string conversion; use sys.set_int_max_str_digits() to increase the limit"

end VersionError

structure Version where
  major : List Char
  minor : List Char
  patch : List Char
deriving DecidableEq, Repr

namespace Version

def digits? (text : List Char) : Option (List Char × List Char) :=
  match text.takeWhile Text.isDigit with
  | [] => none
  | digits => some (digits, text.dropWhile Text.isDigit)

def dropMark : List Char → List Char
  | 'v' :: rest => rest
  | text => text

def read? (text : String) : Option Version := do
  let (major, rest) ← digits? (dropMark text.toList)
  let (minor, rest) ← digits? (← Text.dropStart? ['.'] rest)
  let (patch, _) ← digits? (← Text.dropStart? ['.'] rest)
  return ⟨major, minor, patch⟩

def next (digits : List Char) : Except VersionError (List Char) :=
  match Text.readInteger (String.ofList digits) with
  | .error cause => .error (.number cause)
  | .ok number =>
      let written := (toString (number + 1)).toList
      if Text.maxDigits < written.length then .error .tooLong else .ok written

def bump (version : Version) : ReleaseKind → Except VersionError Version
  | .major => do return ⟨← next version.major, ['0'], ['0']⟩
  | .minor => do return ⟨version.major, ← next version.minor, ['0']⟩
  | .patch => do return ⟨version.major, version.minor, ← next version.patch⟩

protected def toString (version : Version) : String :=
  "v" ++ String.ofList version.major ++ "." ++ String.ofList version.minor ++ "."
    ++ String.ofList version.patch

instance : ToString Version := ⟨Version.toString⟩

def bumpText (version kind : String) : Except VersionError String :=
  match ReleaseKind.ofName? kind, read? version with
  | none, _ => .error (.invalidKind kind)
  | some _, none => .error (.unreadable version)
  | some kind, some version => (version.bump kind).map toString

end Version

end MarkupLint
