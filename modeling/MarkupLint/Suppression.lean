import MarkupLint.Ignores
import MarkupLint.Report

set_option autoImplicit false

namespace MarkupLint.Suppression

def quotedAfter? (start ending : List Char) : List Char → Option (List Char)
  | [] => none
  | c :: rest =>
      let here := (Text.dropStart? start (c :: rest)).bind fun after =>
        let name := after.takeWhile (· ≠ '"')
        if !name.isEmpty && Text.startsWith ending (after.drop name.length) then some name else none
      match here with
      | some name => some name
      | none => quotedAfter? start ending rest

def undefinedName? (line : String) : Option String :=
  (quotedAfter? "Undefined substitution referenced: \"".toList ['"'] line.toList).map String.ofList

def emptyName? (line : String) : Option String :=
  (quotedAfter? "Substitution definition \"".toList "\" empty or invalid".toList line.toList).map
    String.ofList

def saysUndefined (line : String) : Bool := Text.hasPiece line "Undefined substitution referenced:"

def saysUnknownTarget (line : String) : Bool := Text.hasPiece line "Unknown target name:"

def saysEmpty (line : String) : Bool :=
  Text.hasPiece line "Substitution definition" && Text.hasPiece line "empty or invalid"

-- Whether a line defines a substitution with a role: a colon stands between the first definition mark and
-- the next one.
def definesRole (line : String) : Bool :=
  let mark := "replace::".toList
  Text.hasPiece line ".. |" &&
    match Text.cut? mark line.toList with
    | none => false
    | some (_, after) =>
        let value := match Text.cut? mark after with
          | some (value, _) => value
          | none => after
        value.contains ':'

-- Two lines below a message stands the definition that it is about. The message is looked up by its text,
-- so that of equal messages the first one counts.
def definitionBelow? (lines : List String) (message : String) : Option String :=
  lines[lines.idxOf message + 2]?

def roleNames (lines : List String) : List String :=
  lines.filterMap fun line =>
    if saysUndefined line || saysUnknownTarget line || !saysEmpty line then none
    else do
      let name ← emptyName? line
      let below ← definitionBelow? lines line
      if definesRole below then some name else none

def isDropped (names : List String) (line : String) : Bool :=
  (saysEmpty line && ((emptyName? line).map names.contains).getD false)
    || (saysUndefined line && ((undefinedName? line).map names.contains).getD false)

def readLine (origin : Origin) (line : String) : Except Failure (Option Finding) :=
  match Finding.ofLine origin none false line with
  | .ok finding => .ok (some finding)
  | .error .missingPart => .error .missingPart
  | .error _ => .ok none

def readMessages (origin : Origin) (ignored : Option MessagePattern) (text : String) : Report :=
  let lines := Text.lines text
  let names := roleNames lines
  let kept := lines.filter fun line =>
    !line.isEmpty && !isDropped names line && !((ignored.map (·.foundIn line)).getD false)
  Report.collect (readLine origin) kept

end MarkupLint.Suppression
