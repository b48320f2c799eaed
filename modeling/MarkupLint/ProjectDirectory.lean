import MarkupLint.FileTree
import MarkupLint.ProjectNames
import MarkupLint.ProjectText

set_option autoImplicit false

namespace MarkupLint

def projectFile : String := "conf.py"

-- The directories in which the file of a project is looked for: the given one and those named by shorter
-- paths, as long as the path has a name.
def projectCandidates (directory : Path) : List Path :=
  (List.range directory.names.length).map fun up =>
    { directory with names := directory.names.take (directory.names.length - up) }

namespace FileSystem

-- Whether there is something under a path. A look-up that comes to nothing may fail as such.
def exists? (files : FileSystem) (path : Path) : Except PathError Bool :=
  if path.hasNull then .ok false
  else
    match files.reach path with
    | .ok _ => .ok true
    | .error .tooLong => .error (.nameTooLong path)
    | .error .denied => .error (.denied path)
    | .error _ => .ok false

def firstProject? (files : FileSystem) : List Path → Except PathError (Option Path)
  | [] => .ok none
  | candidate :: rest => do
      if ← files.exists? (candidate.child projectFile) then return some candidate
      firstProject? files rest

def projectDirectory? (files : FileSystem) (directory : Path) : Except PathError (Option Path) :=
  files.firstProject? (projectCandidates directory)

end FileSystem

namespace ProjectText

def definedNames : Nat → List Char → List String
  | 0, _ => []
  | _ + 1, [] => []
  | fuel + 1, c :: rest =>
      match definitionAt? (c :: rest) with
      | some (name, after) => name :: definedNames fuel after
      | none => definedNames fuel rest
where
  definitionAt? (text : List Char) : Option (String × List Char) := do
    let inside ← Text.dropStart? ".. |".toList text
    let name := inside.takeWhile (· ≠ '|')
    if name.isEmpty then none
    let value ← Text.dropStart? "| replace:: ".toList (inside.dropWhile (· ≠ '|'))
    if (value.head?.all (· = '\n')) then none
    some (String.ofList name, value.dropWhile (· ≠ '\n'))

def substitutionNames (text : ProjectText) : List String :=
  definedNames text.prolog.length text.prolog.toList ++ text.substitutions.map (·.1)

end ProjectText

namespace Registry

def ofProject (text : ProjectText) : Registry :=
  text.substitutionNames.foldl addSubstitution empty.loadProject

end Registry

end MarkupLint
