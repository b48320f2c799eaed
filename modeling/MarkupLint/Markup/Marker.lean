import MarkupLint.Markup.Inline

set_option autoImplicit false

namespace MarkupLint.Markup

def spaceCount (text : List Char) : Nat := (text.takeWhile (· = ' ')).length

def markerWidth? (marker : Nat) (rest : List Char) : Option Nat :=
  if rest.isEmpty then some marker
  else if rest.head? = some ' ' then some (marker + spaceCount rest)
  else none

def bulletChars : List Char := ['-', '+', '*', '•', '‣', '⁃']

def bullet? : List Char → Option (Char × Nat)
  | c :: rest => if bulletChars.contains c then (markerWidth? 1 rest).map fun n => (c, n) else none
  | [] => none

inductive EnumFormat where
  | parens
  | rightParen
  | period
deriving DecidableEq, Repr

inductive EnumSequence where
  | arabic
  | lowerAlpha
  | upperAlpha
  | lowerRoman
  | upperRoman
  | auto
deriving DecidableEq, Repr

def isLower (c : Char) : Bool := 'a' ≤ c && c ≤ 'z'

def isUpper (c : Char) : Bool := 'A' ≤ c && c ≤ 'Z'

def isLowerRoman (c : Char) : Bool := "ivxlcdm".toList.contains c

def isUpperRoman (c : Char) : Bool := "IVXLCDM".toList.contains c

namespace EnumSequence

def admits (text : List Char) : EnumSequence → Bool
  | .arabic => !text.isEmpty && text.all Text.isAsciiDigit
  | .lowerAlpha => text.length = 1 && text.all isLower
  | .upperAlpha => text.length = 1 && text.all isUpper
  | .lowerRoman => !text.isEmpty && text.all isLowerRoman
  | .upperRoman => !text.isEmpty && text.all isUpperRoman
  | .auto => text = ['#']

def all : List EnumSequence := [.arabic, .lowerAlpha, .upperAlpha, .lowerRoman, .upperRoman]

end EnumSequence

def romanDigits : List (Nat × List Char) :=
  [ (1000, ['M']), (900, ['C', 'M']), (500, ['D']), (400, ['C', 'D']), (100, ['C']),
    (90, ['X', 'C']), (50, ['L']), (40, ['X', 'L']), (10, ['X']), (9, ['I', 'X']), (5, ['V']),
    (4, ['I', 'V']), (1, ['I']) ]

def romanText (number : Nat) : List Char :=
  (romanDigits.foldl
    (fun (done, left) (value, digits) =>
      (done ++ (List.replicate (left / value) digits).flatten, left % value))
    (([], number) : List Char × Nat)).1

-- The value of Roman digits, if they are written the way the value is written.
def romanValue? (text : List Char) : Option Nat :=
  let digit (c : Char) : Nat := match c with
    | 'M' => 1000 | 'D' => 500 | 'C' => 100 | 'L' => 50 | 'X' => 10 | 'V' => 5 | 'I' => 1 | _ => 0
  let value : Int := (text.zip (text.drop 1 ++ ['_'])).foldl
    (fun sum (c, next) => if digit c < digit next then sum - digit c else sum + digit c) 0
  if 0 < value && romanText value.toNat = text then some value.toNat else none

def upperText (text : List Char) : List Char := text.map Char.toUpper

def ordinal? (sequence : EnumSequence) (text : List Char) : Option Nat :=
  match sequence with
  | .arabic => some (Text.digitsValue text)
  | .lowerAlpha => text.head?.map fun c => c.toNat - 96
  | .upperAlpha => text.head?.map fun c => c.toNat - 64
  | .lowerRoman => romanValue? (upperText text)
  | .upperRoman => romanValue? text
  | .auto => some 1

def ordinalText? (sequence : EnumSequence) (ordinal : Nat) : Option (List Char) :=
  match sequence with
  | .auto => some ['#']
  | .arabic => some (toString ordinal).toList
  | .lowerAlpha => if ordinal > 26 then none else some [Char.ofNat (ordinal + 96)]
  | .upperAlpha => if ordinal > 26 then none else some [Char.ofNat (ordinal + 64)]
  | .lowerRoman => if ordinal > 4999 then none else some ((romanText ordinal).map Char.toLower)
  | .upperRoman => if ordinal > 4999 then none else some (romanText ordinal)

def formatNumber (format : EnumFormat) (text : List Char) : List Char :=
  match format with
  | .parens => '(' :: text ++ [')']
  | .rightParen => text ++ [')']
  | .period => text ++ ['.']

structure Enumerator where
  format : EnumFormat
  text : List Char
  width : Nat
deriving Repr

def enumerator? (line : List Char) : Option Enumerator :=
  let numberOf (text : List Char) : List Char := match text with
    | '#' :: _ => ['#']
    | _ => text.takeWhile fun c => Text.isAsciiLetter c || Text.isAsciiDigit c
  let valid (text : List Char) : Bool :=
    text = ['#'] || EnumSequence.all.any fun sequence => sequence.admits text
  match line with
  | '(' :: inner =>
      let text := numberOf inner
      match inner.drop text.length with
      | ')' :: rest =>
          if valid text then
            (markerWidth? (text.length + 2) rest).map fun width => ⟨.parens, text, width⟩
          else none
      | _ => none
  | _ =>
      let text := numberOf line
      match line.drop text.length with
      | ')' :: rest =>
          if valid text then
            (markerWidth? (text.length + 1) rest).map fun width => ⟨.rightParen, text, width⟩
          else none
      | '.' :: rest =>
          if valid text then
            (markerWidth? (text.length + 1) rest).map fun width => ⟨.period, text, width⟩
          else none
      | _ => none

-- The sequence of a number: the expected one if it fits, Roman for a single `i`, else the first that fits.
def sequenceOf (expected : Option EnumSequence) (text : List Char) : EnumSequence :=
  if text = ['#'] then .auto
  else
    let first := (EnumSequence.all.find? fun sequence => sequence.admits text).getD .arabic
    match expected with
    | some sequence => if sequence.admits text then sequence else first
    | none => if text = ['i'] then .lowerRoman else if text = ['I'] then .upperRoman else first

def fieldName? : List Char → List Char → Option (List Char × List Char)
  | _, [] => none
  | _, ['\\'] => none
  | done, '\\' :: c :: rest => fieldName? (c :: '\\' :: done) rest
  | done, c :: rest =>
      if c = ':' then
        if rest.isEmpty || rest.head? = some ' ' then
          if done.head? = some ' ' then none else some (done.reverse, rest)
        else if rest.head? = some '\x60' then none
        else fieldName? (c :: done) rest
      else fieldName? (c :: done) rest

def field? : List Char → Option (List Char × Nat)
  | ':' :: rest =>
      if rest.head? = some ':' || rest.head? = some ' ' || rest.isEmpty then none
      else (fieldName? [] rest).map fun (name, body) => (name, name.length + 2 + spaceCount body)
  | _ => none

def isOptionChar (c : Char) : Bool :=
  Text.isAsciiLetter c || Text.isAsciiDigit c || c = '_' || c = '-'

def optionArgument? (text : List Char) : Option (List Char) :=
  match text with
  | '<' :: rest =>
      let inner := rest.takeWhile fun c => c ≠ '<' && c ≠ '>'
      match rest.drop inner.length with
      | '>' :: after => if inner.isEmpty then none else some after
      | _ => none
  | c :: rest => if Text.isAsciiLetter c then some (rest.dropWhile isOptionChar) else none
  | [] => none

def optionRests (text : List Char) : List (List Char) :=
  let withArgument (separators : List Char) (optionalSeparator : Bool) (rest : List Char) :
      List (List Char) :=
    let separated := match rest with
      | c :: after => if separators.contains c then (optionArgument? after).toList else []
      | [] => []
    let direct := if optionalSeparator then (optionArgument? rest).toList else []
    separated ++ direct ++ [rest]
  let long (rest : List Char) : List (List Char) := match rest with
    | c :: after =>
        if Text.isAsciiLetter c || Text.isAsciiDigit c then
          withArgument [' ', '='] false (after.dropWhile isOptionChar)
        else []
    | [] => []
  match text with
  | '-' :: '-' :: rest => long rest
  | '/' :: rest => long rest
  | '-' :: c :: rest =>
      if Text.isAsciiLetter c || Text.isAsciiDigit c then withArgument [' '] true rest else []
  | '+' :: c :: rest =>
      if Text.isAsciiLetter c || Text.isAsciiDigit c then withArgument [' '] true rest else []
  | _ => []

def optionRowRests : Nat → List Char → List (List Char)
  | 0, _ => []
  | fuel + 1, text =>
      (optionRests text).flatMap fun rest =>
        (match rest with
          | ',' :: ' ' :: after => optionRowRests fuel after
          | _ => []) ++ [rest]

def option? (text : List Char) : Option Nat :=
  (optionRowRests (text.length + 1) text).findSome? fun rest =>
    if rest.isEmpty || rest = [' '] then some text.length
    else if 2 ≤ spaceCount rest then some (text.length - rest.length + spaceCount rest)
    else none

def insideBrackets : List Char → Bool
  | [] => false
  | c :: rest => c = '>' || (c ≠ '<' && insideBrackets rest)

def splitOptions : List Char → List Char → List (List Char)
  | done, [] => [done.reverse]
  | done, ',' :: ' ' :: rest =>
      if insideBrackets rest then splitOptions (',' :: done) (' ' :: rest)
      else done.reverse :: splitOptions [] rest
  | done, c :: rest => splitOptions (c :: done) rest
termination_by _ text => text.length

def optionTokens (option : List Char) : List (List Char) :=
  let tokens := match words option with
    | [] => []
    | first :: others =>
        let name := first.takeWhile (· ≠ '=')
        if name.length < first.length then name :: first.drop (name.length + 1) :: others
        else if 2 < first.length && ((first.head? = some '-' && first[1]? ≠ some '-')
            || first.head? = some '+') then
          first.take 2 :: first.drop 2 :: others
        else first :: others
  match tokens with
  | name :: argument :: others =>
      let last := others.getLast?.getD argument
      if argument.head? = some '<' && last.getLast? = some '>' then
        [name, ((argument :: others).intersperse [' ']).flatten]
      else tokens
  | _ => tokens

def optionFault? (row : List Char) : Option String :=
  (splitOptions [] (Text.trimRight row)).findSome? fun option =>
    let count := (optionTokens option).length
    if 0 < count && count ≤ 2 then none
    else some ("wrong number of option tokens (=" ++ toString count ++ "), should be 1 or 2: \""
      ++ String.ofList option ++ "\"")

def isPunctuation (c : Char) : Bool :=
  let code := c.toNat
  (0x21 ≤ code && code ≤ 0x2f) || (0x3a ≤ code && code ≤ 0x40) || (0x5b ≤ code && code ≤ 0x60)
    || (0x7b ≤ code && code ≤ 0x7e)

def isRule (text : List Char) : Bool :=
  match Text.trimRight text with
  | c :: rest => isPunctuation c && rest.all (· = c)
  | [] => false

def isGridBorder (text : List Char) : Bool :=
  let border := (text.reverse.dropWhile (· = ' ')).reverse
  match border with
  | '+' :: '-' :: rest =>
      match rest.reverse with
      | '+' :: '-' :: inner => !inner.isEmpty && inner.all fun c => c = '-' || c = '+'
      | _ => false
  | _ => false

def isColumnBorder (text : List Char) : Bool :=
  text.head? = some '=' && text.all (fun c => c = '=' || c = ' ') && (Text.trimRight text).contains ' '

def doubled? (mark : Char) : List Char → Option Nat
  | a :: b :: rest => if a = mark && b = mark then markerWidth? 2 rest else none
  | _ => none

inductive Opening where
  | bullet (mark : Char) (column : Nat)
  | enumerator (item : Enumerator)
  | field (name : List Char) (column : Nat)
  | option (column : Nat)
  | doctest
  | lineBlock (column : Nat)
  | gridTable
  | simpleTable
  | explicit (column : Nat)
  | anonymous (column : Nat)
  | rule
  | text
deriving Repr

def opening (text : List Char) : Opening :=
  match bullet? text with
  | some (mark, column) => .bullet mark column
  | none =>
  match enumerator? text with
  | some item => .enumerator item
  | none =>
  match field? text with
  | some (name, column) => .field name column
  | none =>
  match option? text with
  | some column => .option column
  | none =>
  if (match Text.dropStart? ">>>".toList text with
      | some rest => rest.isEmpty || rest.head? = some ' '
      | none => false) then .doctest
  else
  match (match text with | '|' :: rest => markerWidth? 1 rest | _ => none) with
  | some column => .lineBlock column
  | none =>
  if isGridBorder text then .gridTable
  else if isColumnBorder text then .simpleTable
  else
  match doubled? '.' text with
  | some column => .explicit column
  | none =>
  match doubled? '_' text with
  | some column => .anonymous column
  | none => if isRule text then .rule else .text

end MarkupLint.Markup
