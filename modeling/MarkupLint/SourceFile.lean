import MarkupLint.Encoding
import MarkupLint.FileTree

set_option autoImplicit false

namespace MarkupLint

inductive SourceError where
  | nullCharacter
  | loop (path : Path)
  | nameTooLong (path : Path)
  | denied (path : Path)
  | noFile (path : Path)
  | noDirectory (path : Path)
  | isDirectory (path : Path)
  | encoding (cause : EncodingError)
deriving DecidableEq, Repr

namespace SourceError

def message : SourceError → String
  | .nullCharacter => PathError.nullCharacter.message
  | .loop path => (PathError.loop path).message
  | .nameTooLong path => "[Errno 36] File name too long: " ++ path.shown
  | .denied path => "[Errno 13] Permission denied: " ++ path.shown
  | .noFile path => "[Errno 2] No such file or directory: " ++ path.shown
  | .noDirectory path => "[Errno 20] Not a directory: " ++ path.shown
  | .isDirectory path => "[Errno 21] Is a directory: " ++ path.shown
  | .encoding cause => cause.message

end SourceError

def withLineFeeds (text : List Char) : String :=
  String.ofList ((Text.splitLines text).flatMap (· ++ ['\n']))

namespace FileSystem

def readDocument (files : FileSystem) (path : Path) : Except SourceError String := do
  let resolved := files.resolve path
  match files.fault? path with
  | some .nullCharacter => throw .nullCharacter
  | some (.loop path) => throw (.loop path)
  | some (.nameTooLong path) => throw (.nameTooLong path)
  | some (.denied path) => throw (.denied path)
  | none => pure ()
  match files.tree.seek resolved.names with
  | .ok (.file bytes true) => ((Encoding.readText bytes).map withLineFeeds).mapError .encoding
  | .ok (.file _ false) => .error (.denied resolved)
  | .ok (.directory ..) => .error (.isDirectory resolved)
  | .error .notDirectory => .error (.noDirectory resolved)
  | _ => .error (.noFile resolved)

def readSource (files : FileSystem) (input : String) (path : Path) : Except SourceError String :=
  if path.name = "-" then .ok input else files.readDocument path

end FileSystem

end MarkupLint
