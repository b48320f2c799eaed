import MarkupLint.Path
import MarkupLint.Pattern.Reader
import MarkupLint.Text.Digit

set_option autoImplicit false

namespace MarkupLint

inductive Origin where
  | text (name : String)
  | file (path : Path)
deriving DecidableEq, Repr

namespace Origin

def name : Origin → String
  | .text name => name
  | .file path => toString path

def inMemory : Origin := .text "<string>"

end Origin

structure Finding where
  origin : String
  line : Int
  message : String
deriving DecidableEq, Repr

-- Why a line cannot be read as a finding. A line with too few colons is told apart from the other two,
-- because only those are passed over by the readers of tool output.
inductive LineError where
  | foreign
  | number (cause : Text.NumberError)
  | missingPart
deriving DecidableEq, Repr

namespace Finding

-- Reads `origin:line: message`, or `origin:line:column: message`.
def ofLine (origin : Origin) (file? : Option Path) (hasColumn : Bool) (line : String) :
    Except LineError Finding :=
  -- A line about a temporary file starts with the name of that file.
  let name := match file? with
    | some file => toString file
    | none => origin.name
  match Text.dropStart? (name.toList ++ [':']) line.toList with
  | none => .error .foreign
  | some rest =>
      let colons := if hasColumn then 2 else 1
      let parts := Text.splitAtMost ':' colons rest
      match Text.readInteger (String.ofList (parts.headD [])) with
      | .error cause => .error (.number cause)
      | .ok number =>
          match parts[colons]? with
          | some message => .ok ⟨origin.name, number, String.ofList (Text.trim message)⟩
          | none => .error .missingPart

def toLine (finding : Finding) : String :=
  finding.origin ++ ":" ++ toString finding.line ++ ": " ++ finding.message

def hasCategory (message : String) : Bool :=
  match message.toList with
  | '(' :: rest =>
      let name := rest.takeWhile fun c => 'A' ≤ c && c ≤ 'Z'
      match rest.drop name.length with
      | '/' :: rest =>
          let number := rest.takeWhile Text.isAsciiDigit
          !name.isEmpty && !number.isEmpty && (rest.drop number.length).head? = some ')'
      | _ => false
  | _ => false

def categorised (finding : Finding) : Finding :=
  if hasCategory finding.message then finding
  else { finding with message := "(ERROR/3) " ++ finding.message }

end Finding

end MarkupLint
