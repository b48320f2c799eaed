import MarkupLint.Format.Toml
import MarkupLint.Text.Digit

set_option autoImplicit false

namespace MarkupLint.Toml

def fail {α : Type} (cause : Cause) (rest : List Char) : Except Fault α := .error (.fault cause rest.length)

def locate {α : Type} (rest : List Char) : Except Cause α → Except Fault α
  | .ok value => .ok value
  | .error cause => fail cause rest

def isSpace (c : Char) : Bool := c = ' ' || c = '\t'

def isSpaceOrBreak (c : Char) : Bool := isSpace c || c = '\n'

def isBareKeyChar (c : Char) : Bool :=
  Text.isAsciiLetter c || Text.isAsciiDigit c || c = '-' || c = '_'

def isControl (c : Char) : Bool := c.toNat < 32 || c.toNat = 127

def isIllegal (c : Char) : Bool := isControl c && c ≠ '\t'

def isIllegalInLines (c : Char) : Bool := isIllegal c && c ≠ '\n'

def skipSpace (text : List Char) : List Char := text.dropWhile isSpace

def upTo (piece : String) (illegal : Char → Bool) (text : List Char) :
    Except Fault (List Char × List Char) :=
  match Text.cut? piece.toList text with
  | none => fail (.expected piece) []
  | some (before, after) =>
      match before.find? illegal with
      | some found => fail (.badChar found) (text.dropWhile (!illegal ·))
      | none => .ok (before, after)

def skipComment (text : List Char) : Except Fault (List Char) :=
  match text with
  | '#' :: rest =>
      let comment := rest.takeWhile (· ≠ '\n')
      match comment.find? isIllegal with
      | some found => fail (.badChar found) (rest.dropWhile (!isIllegal ·))
      | none => .ok (rest.drop comment.length)
  | _ => .ok text

def skipInArray : Nat → List Char → Except Fault (List Char)
  | 0, text => .ok text
  | count + 1, text => do
      let rest ← skipComment (text.dropWhile isSpaceOrBreak)
      if rest.length = text.length then return rest else skipInArray count rest

def escapes : List (Char × Char) :=
  [('b', '\x08'), ('t', '\t'), ('n', '\n'), ('f', '\x0c'), ('r', '\r'), ('"', '"'), ('\\', '\\')]

def hexChar (length : Nat) (text : List Char) : Except Fault (List Char × List Char) :=
  let digits := text.take length
  let rest := text.drop length
  if digits.length ≠ length || !digits.all Text.isHexDigit then fail .hexDigits text
  else
    let code := Text.hexValue digits
    if code.isValidChar then .ok ([Char.ofNat code], rest) else fail .notScalar rest

def escape (multiline : Bool) (text : List Char) : Except Fault (List Char × List Char) :=
  match text with
  | [] => fail .backslash []
  | c :: rest =>
      if multiline && c = '\n' then .ok ([], rest.dropWhile isSpaceOrBreak)
      else if multiline && isSpace c then
        match skipSpace rest with
        | [] => .ok ([], [])
        | '\n' :: more => .ok ([], more.dropWhile isSpaceOrBreak)
        | more => fail .backslash more
      else if c = 'u' then hexChar 4 rest
      else if c = 'U' then hexChar 8 rest
      else
        match escapes.lookup c with
        | some value => .ok ([value], rest)
        | none => fail .backslash rest

def quotedText (multiline : Bool) : Nat → List Char → Except Fault (List Char × List Char)
  | _, [] => fail .openText []
  | 0, text => fail .openText text
  | count + 1, '"' :: rest =>
      if !multiline then .ok ([], rest)
      else
        match Text.dropStart? ['"', '"'] rest with
        | some rest => .ok ([], rest)
        | none => do
            let (more, rest) ← quotedText multiline count rest
            return ('"' :: more, rest)
  | count + 1, '\\' :: rest => do
      let (value, rest) ← escape multiline rest
      let (more, rest) ← quotedText multiline count rest
      return (value ++ more, rest)
  | count + 1, c :: rest =>
      if (if multiline then isIllegalInLines c else isIllegal c) then fail (.controlChar c) (c :: rest)
      else do
        let (more, rest) ← quotedText multiline count rest
        return (c :: more, rest)

def lineText (text : List Char) : Except Fault (List Char × List Char) :=
  quotedText false (text.length + 1) text

def literalText (text : List Char) : Except Fault (List Char × List Char) := upTo "'" isIllegal text

-- Up to two quotes more at the end of a text of several lines belong to the text.
def moreQuotes (mark : Char) (value rest : List Char) : List Char × List Char :=
  match rest with
  | a :: b :: more =>
      if a = mark && b = mark then (value ++ [a, b], more)
      else if a = mark then (value ++ [a], b :: more)
      else (value, rest)
  | [a] => if a = mark then (value ++ [a], []) else (value, [a])
  | [] => (value, [])

def linesText (literal : Bool) (text : List Char) : Except Fault (List Char × List Char) := do
  let text := (Text.dropStart? ['\n'] text).getD text
  if literal then
    let (value, rest) ← upTo "'''" isIllegalInLines text
    return moreQuotes '\'' value rest
  else
    let (value, rest) ← quotedText true (text.length + 1) text
    return moreQuotes '"' value rest

def keyPart (text : List Char) : Except Fault (String × List Char) := do
  match text with
  | '\'' :: rest =>
      let (name, rest) ← literalText rest
      return (String.ofList name, rest)
  | '"' :: rest =>
      let (name, rest) ← lineText rest
      return (String.ofList name, rest)
  | _ =>
      let name := text.takeWhile isBareKeyChar
      if name.isEmpty then fail .keyStart text
      else return (String.ofList name, text.drop name.length)

def keyParts : Nat → List Char → Except Fault (Key × List Char)
  | 0, text => fail .keyStart text
  | count + 1, text => do
      let (name, rest) ← keyPart text
      match skipSpace rest with
      | '.' :: rest =>
          let (names, rest) ← keyParts count (skipSpace rest)
          return (name :: names, rest)
      | rest => return ([name], rest)

def readKey (text : List Char) : Except Fault (Key × List Char) := keyParts (text.length + 1) text

def digitRun (isDigit : Char → Bool) : List Char → List Char
  | [] => []
  | [c] => if isDigit c then [c] else []
  | c :: next :: rest =>
      if isDigit c then c :: digitRun isDigit (next :: rest)
      else if c = '_' && isDigit next then c :: next :: digitRun isDigit rest
      else []

def digits (isDigit : Char → Bool) (text : List Char) : List Char :=
  if text.head? = some '_' then [] else digitRun isDigit text

def isBinary (c : Char) : Bool := c = '0' || c = '1'

def isOctal (c : Char) : Bool := '0' ≤ c && c ≤ '7'

def inBase (base : Nat) (digits : List Char) : Nat :=
  (digits.filter (· ≠ '_')).foldl (fun value c => value * base + Text.hexDigitValue c) 0

def basedNumber? (text : List Char) : Option (Nat × List Char) :=
  match text with
  | mark :: rest =>
      let found := if mark = 'x' then some (16, digits Text.isHexDigit rest)
        else if mark = 'b' then some (2, digits isBinary rest)
        else if mark = 'o' then some (8, digits isOctal rest)
        else none
      match found with
      | some (base, run) => if run.isEmpty then none else some (inBase base run, rest.drop run.length)
      | none => none
  | [] => none

def fractionPart (text : List Char) : List Char :=
  match text with
  | '.' :: rest =>
      let run := digits Text.isAsciiDigit rest
      if run.isEmpty then [] else '.' :: run
  | _ => []

def exponentPart (text : List Char) : List Char :=
  match text with
  | mark :: rest =>
      if mark = 'e' || mark = 'E' then
        let sign := rest.takeWhile fun c => c = '+' || c = '-'
        if 1 < sign.length then []
        else
          let run := digits Text.isAsciiDigit (rest.drop sign.length)
          if run.isEmpty then [] else mark :: sign ++ run
      else []
  | [] => []

def fractionValue (negative : Bool) (whole fraction exponent : List Char) : Binary64 :=
  let plain (digits : List Char) : List Char := digits.filter Text.isAsciiDigit
  let shift : Int := Text.digitsValue (plain exponent)
  let places : Int := (plain fraction).length
  .ofDecimal negative
    ⟨Text.digitsValue (plain (whole ++ fraction)),
      (if exponent.contains '-' then -shift else shift) - places⟩

def decimal? (text : List Char) : Except Fault (Option (Value × List Char)) :=
  let sign := (text.take 1).filter fun c => c = '+' || c = '-'
  let unsigned := text.drop sign.length
  let run := if unsigned.head? = some '0' then ['0'] else digits Text.isAsciiDigit unsigned
  if run.isEmpty then .ok none
  else
    let afterRun := unsigned.drop run.length
    let fraction := fractionPart afterRun
    let exponent := exponentPart (afterRun.drop fraction.length)
    let rest := afterRun.drop (fraction.length + exponent.length)
    if fraction.isEmpty && exponent.isEmpty then
      let plain := run.filter (· ≠ '_')
      if Text.maxDigits < plain.length then .error (.longNumber plain.length)
      else
        let magnitude : Int := Text.digitsValue plain
        .ok (some (.whole (if sign = ['-'] then -magnitude else magnitude), rest))
    else .ok (some (.fraction (fractionValue (sign = ['-']) run fraction exponent), rest))

def number? (text : List Char) : Except Fault (Option (Value × List Char)) :=
  match text with
  | '0' :: rest =>
      match basedNumber? rest with
      | some (value, rest) => .ok (some (.whole value, rest))
      | none => decimal? text
  | _ => decimal? text

def specialNumbers : List (String × Binary64) :=
  [ ("inf", .infinite false), ("nan", .notNumber), ("-inf", .infinite true), ("+inf", .infinite false),
    ("-nan", .notNumber), ("+nan", .notNumber) ]

def special? (text : List Char) : Option (Value × List Char) :=
  specialNumbers.findSome? fun (word, value) =>
    (Text.dropStart? word.toList text).map fun rest => (.fraction value, rest)

def twoDigits? (least most : Nat) (text : List Char) : Option (Nat × List Char) :=
  match text with
  | a :: b :: rest =>
      let value := Text.digitsValue [a, b]
      if Text.isAsciiDigit a && Text.isAsciiDigit b && least ≤ value && value ≤ most then
        some (value, rest)
      else none
  | _ => none

-- A time of day; digits after the sixth behind the point are dropped.
def timeOfDay? (text : List Char) : Option (TimeOfDay × List Char) := do
  let (hour, rest) ← twoDigits? 0 23 text
  let (minute, rest) ← twoDigits? 0 59 (← Text.dropStart? [':'] rest)
  let (second, rest) ← twoDigits? 0 59 (← Text.dropStart? [':'] rest)
  match rest with
  | '.' :: more =>
      let run := more.takeWhile Text.isAsciiDigit
      let micros := Text.digitsValue (run.take 6) * Nat.pow 10 (6 - run.length)
      return if run.isEmpty then (⟨hour, minute, second, 0⟩, rest)
        else (⟨hour, minute, second, micros⟩, more.drop run.length)
  | _ => return (⟨hour, minute, second, 0⟩, rest)

def offset (text : List Char) : Option Int × List Char :=
  match text with
  | c :: rest =>
      if c = 'Z' || c = 'z' then (some 0, rest)
      else if c = '+' || c = '-' then
        (do let (hours, rest) ← twoDigits? 0 23 rest
            let (minutes, rest) ← twoDigits? 0 59 (← Text.dropStart? [':'] rest)
            let distance : Int := hours * 60 + minutes
            return (some (if c = '-' then -distance else distance), rest)
          : Option (Option Int × List Char)).getD (none, text)
      else (none, text)
  | [] => (none, [])

def date? (text : List Char) : Option (Date × List Char) := do
  let (high, rest) ← twoDigits? 0 99 text
  let (low, rest) ← twoDigits? 0 99 rest
  let (month, rest) ← twoDigits? 1 12 (← Text.dropStart? ['-'] rest)
  let (day, rest) ← twoDigits? 1 31 (← Text.dropStart? ['-'] rest)
  return (⟨high * 100 + low, month, day⟩, rest)

def moment? (text : List Char) : Except Fault (Option (Value × List Char)) :=
  match date? text with
  | some (date, rest) =>
      if !date.isValid then fail .date text
      else
        let withTime := match rest with
          | c :: more => if c = 'T' || c = 't' || c = ' ' then timeOfDay? more else none
          | [] => none
        match withTime with
        | some (time, rest) =>
            let (distance, rest) := offset rest
            .ok (some (.moment (.dateTime date time distance), rest))
        | none => .ok (some (.moment (.date date), rest))
  | none =>
      match timeOfDay? text with
      | some (time, rest) => .ok (some (.moment (.time time), rest))
      | none => .ok none

def plainValue (text : List Char) : Except Fault (Value × List Char) := do
  if let some found ← moment? text then return found
  if let some found ← number? text then return found
  if let some found := special? text then return found
  fail .value text

structure Inline where
  table : Table := []
  marks : Marks := {}

def Inline.add (inline : Inline) (key : Key) (value : Value) : Except Cause Inline := do
  if inline.marks.isComplete key then throw (.frozen key)
  let name := key.getLastD ""
  let table ← changeAt false (addValue (.keyTwice name) name value) key.dropLast inline.table
  return { inline with table }

def Inline.close (inline : Inline) (key : Key) : Value → Inline
  | .table _ | .array _ => { inline with marks := inline.marks.setComplete key }
  | _ => inline

mutual

def readValue : Nat → List Char → Except Fault (Value × List Char)
  | 0, text => fail .value text
  | fuel + 1, text =>
      match text with
      | '"' :: '"' :: '"' :: rest => do
          let (value, rest) ← linesText false rest
          return (.text (String.ofList value), rest)
      | '"' :: rest => do
          let (value, rest) ← lineText rest
          return (.text (String.ofList value), rest)
      | '\'' :: '\'' :: '\'' :: rest => do
          let (value, rest) ← linesText true rest
          return (.text (String.ofList value), rest)
      | '\'' :: rest => do
          let (value, rest) ← literalText rest
          return (.text (String.ofList value), rest)
      | '[' :: rest => do
          let (items, rest) ← readItems fuel (← skipInArray (rest.length + 1) rest)
          return (.array items, rest)
      | '\x7b' :: rest =>
          match skipSpace rest with
          | '\x7d' :: rest => .ok (.table [], rest)
          | rest => do
              let (table, rest) ← readInline fuel {} rest
              return (.table table, rest)
      | _ =>
          match Text.dropStart? "true".toList text, Text.dropStart? "false".toList text with
          | some rest, _ => .ok (.flag true, rest)
          | none, some rest => .ok (.flag false, rest)
          | none, none => plainValue text

def readItems : Nat → List Char → Except Fault (List Value × List Char)
  | _, ']' :: rest => .ok ([], rest)
  | 0, text => fail .openArray text
  | fuel + 1, text => do
      let (item, rest) ← readValue fuel text
      match ← skipInArray (rest.length + 1) rest with
      | ']' :: rest => return ([item], rest)
      | ',' :: rest =>
          let (items, rest) ← readItems fuel (← skipInArray (rest.length + 1) rest)
          return (item :: items, rest)
      | rest => fail .openArray rest

def readInline : Nat → Inline → List Char → Except Fault (Table × List Char)
  | 0, _, text => fail .openTable text
  | fuel + 1, inline, text => do
      let (key, value, rest) ← readPair fuel text
      let inline ← locate rest (inline.add key value)
      match skipSpace rest with
      | '\x7d' :: rest => return (inline.table, rest)
      | ',' :: rest => readInline fuel (inline.close key value) (skipSpace rest)
      | rest => fail .openTable rest

def readPair : Nat → List Char → Except Fault (Key × Value × List Char)
  | 0, text => fail .value text
  | fuel + 1, text => do
      let (key, rest) ← readKey text
      match rest with
      | '=' :: rest =>
          let (value, rest) ← readValue fuel (skipSpace rest)
          return (key, value, rest)
      | _ => fail .equalsSign rest

end

structure Draft where
  table : Table := []
  marks : Marks := {}
  header : Key := []

namespace Draft

def openTable (draft : Draft) (key : Key) : Except Cause Draft := do
  if draft.marks.isOpened key || draft.marks.isComplete key then throw (.declaredTwice key)
  let table ← changeAt true .ok key draft.table
  return { table, marks := draft.marks.setOpened key, header := key }

def appendTable (draft : Draft) (key : Key) : Except Cause Draft := do
  if draft.marks.isComplete key then throw (.frozen key)
  let table ← changeAt true (Toml.appendTable (key.getLastD "")) key.dropLast draft.table
  return { table, marks := (draft.marks.forget key).setOpened key, header := key }

-- The tables that a dotted key makes may not have been opened by a header before, nor be opened by one
-- after the present section.
def noteParents (draft : Draft) (key : Key) : Nat → Except Cause Draft
  | 0 => .ok draft
  | count + 1 => do
      let draft ← draft.noteParents key count
      let parent := draft.header ++ key.take (count + 1)
      if draft.marks.isOpened parent then throw (.redefined parent)
      return { draft with marks := draft.marks.addPending parent }

def add (draft : Draft) (key : Key) (value : Value) : Except Cause Draft := do
  let draft ← draft.noteParents key (key.length - 1)
  let parent := draft.header ++ key.dropLast
  if draft.marks.isComplete parent then throw (.frozen parent)
  let table ← changeAt true (addValue .overwritten (key.getLastD "") value) parent draft.table
  let marks := match value with
    | .table _ | .array _ => draft.marks.setComplete (draft.header ++ key)
    | _ => draft.marks
  return { draft with table, marks }

end Draft

def readHeader (draft : Draft) (isArray : Bool) (text : List Char) : Except Fault (Draft × List Char) := do
  let draft := { draft with marks := draft.marks.settle }
  let (key, rest) ← readKey (skipSpace text)
  let opened ← locate rest (if isArray then draft.appendTable key else draft.openTable key)
  match Text.dropStart? (if isArray then [']', ']'] else [']']) rest with
  | some rest => return (opened, rest)
  | none => fail (if isArray then .arrayTableEnd else .tableEnd) rest

def readStatement (draft : Draft) (text : List Char) : Except Fault (Draft × List Char) :=
  match text with
  | '[' :: '[' :: rest => readHeader draft true rest
  | '[' :: rest => readHeader draft false rest
  | '#' :: _ => .ok (draft, text)
  | c :: _ =>
      if isBareKeyChar c || c = '"' || c = '\'' then do
        let (key, value, rest) ← readPair (2 * text.length + 2) text
        return (← locate rest (draft.add key value), rest)
      else fail .statement text
  | [] => .ok (draft, [])

def readStatements : Nat → Draft → List Char → Except Fault Table
  | 0, draft, _ => .ok draft.table
  | count + 1, draft, text =>
      match skipSpace text with
      | [] => .ok draft.table
      | '\n' :: rest => readStatements count draft rest
      | text => do
          let (draft, rest) ← readStatement draft text
          match ← skipComment (skipSpace rest) with
          | [] => return draft.table
          | '\n' :: rest => readStatements count draft rest
          | rest => fail .lineEnd rest

def normalText (text : List Char) : List Char := Text.replaceAll ['\r', '\n'] ['\n'] text

def read (text : List Char) : Except Fault Table :=
  let text := normalText text
  readStatements (text.length + 1) {} text

def Fault.message (text : List Char) : Fault → String
  | .fault cause left => cause.message ++ " (at " ++ placeMessage (normalText text) left ++ ")"
  | .longNumber digits => "Exceeds the limit (" ++ toString Text.maxDigits
      ++ " digits) for integer string conversion: value has " ++ toString digits
      ++ " digits; use sys.set_int_max_str_digits() to increase the limit"

end MarkupLint.Toml
