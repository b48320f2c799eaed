import MarkupLint.Text.Blank
import MarkupLint.Text.Case
import MarkupLint.Text.Lines
import MarkupLint.Text.Quoted
import MarkupLint.Text.Search

set_option autoImplicit false

namespace MarkupLint.Ini

inductive Fault where
  | noSection (line : Nat) (text : String)
  | sectionTwice (line : Nat) (name : String)
  | optionTwice (line : Nat) (sectionName name : String)
  | unreadable (lines : List (Nat × String))
deriving DecidableEq, Repr

inductive ValueFault where
  | badSign (rest : String)
  | badReference (rest : String)
  | missing (option sectionName reference raw : String)
  | tooDeep (option sectionName raw : String)
deriving DecidableEq, Repr

def maxDepth : Nat := 10

def padded (number : Nat) : String := (if number < 10 then " " else "") ++ toString number

def Fault.message (file : String) : Fault → String
  | .noSection line text => "File contains no section headers.\nfile: " ++ file ++ ", line: "
      ++ toString line ++ "\n" ++ Text.quote text
  | .sectionTwice line name => "While reading from " ++ file ++ " [line " ++ padded line ++ "]: section "
      ++ Text.quote name ++ " already exists"
  | .optionTwice line sectionName name => "While reading from " ++ file ++ " [line " ++ padded line
      ++ "]: option " ++ Text.quote name ++ " in section " ++ Text.quote sectionName ++ " already exists"
  | .unreadable lines => "Source contains parsing errors: " ++ file
      ++ String.join (lines.map fun (line, text) =>
        "\n\t[line " ++ padded line ++ "]: " ++ Text.quote text)

def ValueFault.message : ValueFault → String
  | .badSign rest => "'%' must be followed by '%' or '(', found: " ++ Text.quote rest
  | .badReference rest => "bad interpolation variable reference " ++ Text.quote rest
  | .missing option sectionName reference raw => "Bad value substitution: option " ++ Text.quote option
      ++ " in section " ++ Text.quote sectionName ++ " contains an interpolation key "
      ++ Text.quote reference ++ " which is not a valid option name. Raw value: " ++ Text.quote raw
  | .tooDeep option sectionName raw => "Recursion limit exceeded in value substitution: option "
      ++ Text.quote option ++ " in section " ++ Text.quote sectionName
      ++ " contains an interpolation key which cannot be substituted in " ++ toString maxDepth
      ++ " steps. Raw value: " ++ Text.quote raw

inductive Line where
  | header (name : String)
  | option (name value : String)
  | other
deriving DecidableEq, Repr

def headerName? (text : List Char) : Option String :=
  match text with
  | '[' :: rest =>
      match Text.cutLast? ']' rest with
      | some (name, _) => if name.isEmpty then none else some (String.ofList name)
      | none => none
  | _ => none

def isDelimiter (c : Char) : Bool := c = '=' || c = ':'

def option? (text : List Char) : Option (String × String) :=
  let name := text.takeWhile (!isDelimiter ·)
  match text.drop name.length with
  | [] => none
  | _ :: value =>
      some (Text.toLower (String.ofList (Text.trimRight name)), String.ofList (Text.trim value))

def Line.ofText (text : List Char) : Line :=
  match headerName? text, option? text with
  | some name, _ => .header name
  | none, some (name, value) => .option name value
  | none, none => .other

abbrev Options := List (String × String)

def defaultName : String := "DEFAULT"

structure Reading where
  sections : List (String × List (String × List String)) := []
  current : Option String := none
  option : Option String := none
  indent : Nat := 0
  unreadable : List (Nat × String) := []

namespace Reading

def options (reading : Reading) (name : String) : List (String × List String) :=
  (reading.sections.lookup name).getD []

def hasSection (reading : Reading) (name : String) : Bool := (reading.sections.lookup name).isSome

def hasOption (reading : Reading) (sectionName name : String) : Bool :=
  ((reading.options sectionName).lookup name).isSome

def change (reading : Reading) (name : String)
    (update : List (String × List String) → List (String × List String)) : Reading :=
  { reading with
    sections := reading.sections.map fun (other, options) =>
      if other = name then (other, update options) else (other, options) }

def openSection (reading : Reading) (name : String) : Reading :=
  { reading with
    sections := if reading.hasSection name then reading.sections else reading.sections ++ [(name, [])]
    current := some name, option := none }

def addLine (reading : Reading) (sectionName name line : String) : Reading :=
  reading.change sectionName fun options =>
    options.map fun (other, lines) => if other = name then (other, lines ++ [line]) else (other, lines)

def addOption (reading : Reading) (sectionName name value : String) : Reading :=
  { reading.change sectionName fun options => options ++ [(name, [value])] with option := some name }

def addUnreadable (reading : Reading) (number : Nat) (line : String) : Reading :=
  { reading with unreadable := reading.unreadable ++ [(number, line)] }

def openValue? (reading : Reading) : Option (String × String) :=
  match reading.current, reading.option with
  | some sectionName, some name => if name = "" then none else some (sectionName, name)
  | _, _ => none

def readEntry (reading : Reading) (number : Nat) (line text : List Char) : Except Fault Reading :=
  match Line.ofText text, reading.current with
  | .header name, _ =>
      if name ≠ defaultName && reading.hasSection name then .error (.sectionTwice number name)
      else .ok (reading.openSection name)
  | _, none => .error (.noSection number (String.ofList line))
  | .option name value, some sectionName =>
      let reading := if name = "" then reading.addUnreadable number (String.ofList line) else reading
      if reading.hasOption sectionName name then .error (.optionTwice number sectionName name)
      else .ok (reading.addOption sectionName name value)
  | .other, some _ => .ok (reading.addUnreadable number (String.ofList line))

def isComment (text : List Char) : Bool := text.head? = some '#' || text.head? = some ';'

def readLine (reading : Reading) (number : Nat) (line : List Char) : Except Fault Reading :=
  let text := Text.trim line
  let indent := line.length - (Text.trimLeft line).length
  if isComment text then .ok reading
  else
    match reading.openValue? with
    | some (sectionName, name) =>
        -- An empty line belongs to the open value too.
        if text.isEmpty || reading.indent < indent then
          .ok (reading.addLine sectionName name (String.ofList text))
        else { reading with indent := indent }.readEntry number line text
    | none =>
        if text.isEmpty then .ok reading
        else { reading with indent := indent }.readEntry number line text

def readLines : Nat → List (List Char) → Reading → Except Fault Reading
  | _, [], reading => .ok reading
  | number, line :: rest, reading => do readLines (number + 1) rest (← reading.readLine number line)

end Reading

structure Document where
  sections : List (String × Options)
deriving DecidableEq, Repr

def joinLines (lines : List String) : String :=
  String.ofList (Text.trimRight (String.intercalate "\n" lines).toList)

def linesOf : List Char → List (List Char)
  | [] => []
  | '\n' :: rest => ['\n'] :: linesOf rest
  | c :: rest => Text.onFirstLine c (linesOf rest)

namespace Document

def ofText (text : List Char) : Except Fault Document := do
  let reading ← Reading.readLines 1 (linesOf (Text.unifyLineEnds text)) {}
  if reading.unreadable.isEmpty then
    return ⟨reading.sections.map fun (name, options) =>
      (name, options.map fun (option, lines) => (option, joinLines lines))⟩
  else throw (.unreadable reading.unreadable)

def hasSection (document : Document) (name : String) : Bool :=
  name ≠ defaultName && (document.sections.lookup name).isSome

-- The options of a section as they are written: those of the default section first, with the value that the
-- section itself gives.
def rawOptions (document : Document) (name : String) : Options :=
  let own := (document.sections.lookup name).getD []
  let shared := (document.sections.lookup defaultName).getD []
  shared.map (fun (option, value) => (option, (own.lookup option).getD value))
    ++ own.filter fun (option, _) => (shared.lookup option).isNone

end Document

inductive Piece where
  | text (value : List Char)
  | reference (name : String)
  | badSign (rest : List Char)
  | badReference (rest : List Char)
deriving DecidableEq, Repr

def reference? (text : List Char) : Option (String × List Char) :=
  let name := text.takeWhile (· ≠ ')')
  match text.drop name.length with
  | ')' :: 's' :: rest => if name.isEmpty then none else some (String.ofList name, rest)
  | _ => none

-- The pieces of a value, up to the first sign that stands wrong. The number bounds their count.
def pieces : Nat → List Char → List Piece
  | 0, _ | _, [] => []
  | _ + 1, ['%'] => [.badSign ['%']]
  | count + 1, '%' :: '%' :: rest => .text ['%'] :: pieces count rest
  | count + 1, '%' :: '(' :: rest =>
      match reference? rest with
      | some (name, rest) => .reference (Text.toLower name) :: pieces count rest
      | none => [.badReference ('%' :: '(' :: rest)]
  | _ + 1, '%' :: rest => [.badSign ('%' :: rest)]
  | count + 1, c :: rest => .text [c] :: pieces count rest

def expand (sectionName option raw : String) (options : Options) : Nat → List Char →
    Except ValueFault (List Char)
  | 0, _ => .error (.tooDeep option sectionName raw)
  | depth + 1, value => do
      let parts ← (pieces (value.length + 1) value).mapM fun
        | .text text => .ok text
        | .badSign rest => .error (.badSign (String.ofList rest))
        | .badReference rest => .error (.badReference (String.ofList rest))
        | .reference name =>
            match options.lookup name with
            | none => .error (.missing option sectionName name raw)
            | some found =>
                if found.toList.contains '%' then
                  expand sectionName option raw options depth found.toList
                else .ok found.toList
      return parts.flatten

def Document.options (document : Document) (name : String) : Except ValueFault Options :=
  let raw := document.rawOptions name
  raw.mapM fun (option, value) => do
    return (option, String.ofList (← expand name option value raw maxDepth value.toList))

end MarkupLint.Ini
