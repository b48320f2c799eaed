import MarkupLint.Text.Lines
import MarkupLint.Text.Search
import MarkupLint.Text.Case
import MarkupLint.Text.Quoted

set_option autoImplicit false

namespace MarkupLint

-- A path without a root is relative. Exactly two slashes at the start are a root of their own.
structure Path where
  root : String
  names : List String
deriving DecidableEq, Repr

namespace Path

def rootOf (text : List Char) : String :=
  match (text.takeWhile (· = '/')).length with
  | 0 => ""
  | 2 => "//"
  | _ => "/"

def ofString (text : String) : Path :=
  { root := rootOf text.toList
    names := ((Text.splitOnChar '/' text.toList).filter fun name => name ≠ [] && name ≠ ['.']).map
      String.ofList }

def isAbsolute (path : Path) : Bool := path.root ≠ ""

protected def toString (path : Path) : String :=
  if path.root = "" && path.names.isEmpty then "."
  else path.root ++ String.intercalate "/" path.names

instance : ToString Path := ⟨Path.toString⟩

def shown (path : Path) : String := "PosixPath(" ++ Text.quote (toString path) ++ ")"

def name (path : Path) : String := (path.names.getLast?).getD ""

def parent (path : Path) : Path := { path with names := path.names.dropLast }

-- The last dot of the name and what follows it, if the dot is neither first nor last.
def extension (path : Path) : String :=
  match Text.cutLast? '.' path.name.toList with
  | some (_ :: _, c :: rest) => String.ofList ('.' :: c :: rest)
  | _ => ""

def join (base path : Path) : Path :=
  if path.isAbsolute then path else { base with names := base.names ++ path.names }

def child (path : Path) (name : String) : Path := { path with names := path.names ++ [name] }

def normalNames : List String → List String → List String
  | done, [] => done.reverse
  | done, name :: rest =>
      if name = ".." then normalNames (done.drop 1) rest else normalNames (name :: done) rest

def resolve (directory path : Path) : Path :=
  let full := directory.join path
  { root := "/", names := normalNames [] full.names }

def hasExtension (path : Path) (extension : String) : Bool :=
  Text.toFolded path.extension = extension

end Path

end MarkupLint
