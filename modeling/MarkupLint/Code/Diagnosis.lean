import MarkupLint.Format.JsonReader
import MarkupLint.Format.XmlReader
import MarkupLint.Format.YamlValue
import MarkupLint.Report
import MarkupLint.Text.Lines

set_option autoImplicit false

namespace MarkupLint.Code

structure Diagnosis where
  line : Int
  message : String
deriving DecidableEq, Repr

-- A line number at the start of a text: white space, then digits, and no colon after them.
def numberThen? (text : List Char) : Option Nat :=
  let spaced := Text.trimLeft text
  let digits := spaced.takeWhile Text.isAsciiDigit
  if spaced.length < text.length && !digits.isEmpty && !(spaced.drop digits.length).contains ':' then
    some (Text.digitsValue digits)
  else none

-- The line that a message names after its last colon, as in `text: line 3, column 4`.
def namedLine? : List Char → Option Nat
  | [] => none
  | c :: rest =>
      match (Text.dropStart? ": line".toList (c :: rest)).bind numberThen? with
      | some line => some line
      | none => namedLine? rest

def lineInMessage (text : List Char) : Nat := (namedLine? text).getD 0

def ofMessage (message : String) : Diagnosis := ⟨lineInMessage message.toList, message⟩

def diagnoseJson (nesting : Nat) (code : String) : Except Failure (Option Diagnosis) :=
  match Json.read nesting code.toList with
  | .ok _ => .ok none
  | .error (.fault kind left) =>
      .ok (some (ofMessage (kind.message (code.toList.take (code.toList.length - left)))))
  | .error (.longNumber digits) =>
      .ok (some (ofMessage (Text.NumberError.message (.tooLong digits))))
  | .error (.tooDeep kind) => .error (.tooDeep kind)

def diagnoseXml (code : String) : Option Diagnosis :=
  (Xml.fault? code.toList).map fun fault => ofMessage (fault.message code.toList)

def diagnoseYaml (code : String) : Except Failure (Option Diagnosis) :=
  match Yaml.fault? code.toList with
  | none => .ok none
  | some (.failed cause) => .error cause
  | some fault => .ok (some (ofMessage (fault.message code.toList)))

end MarkupLint.Code
