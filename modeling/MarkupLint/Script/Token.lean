import MarkupLint.Text.Letter
import MarkupLint.Text.Normal
import MarkupLint.Text.Printable

set_option autoImplicit false

namespace MarkupLint.Script

inductive TokenKind where
  | name
  | number
  | string
  | operator
  | newline
  | indent
  | dedent
  | finish
deriving DecidableEq, Repr

structure Token where
  kind : TokenKind
  text : String
  line : Nat
  depth : Nat
deriving DecidableEq, Repr

structure Fault where
  line : Nat
  message : String
deriving DecidableEq, Repr

def keywords : List String :=
  [ "False", "None", "True", "and", "as", "assert", "async", "await", "break", "class", "continue",
    "def", "del", "elif", "else", "except", "finally", "for", "from", "global", "if", "import", "in",
    "is", "lambda", "nonlocal", "not", "or", "pass", "raise", "return", "try", "while", "with",
    "yield" ]

def softKeywords : List String := ["_", "case", "match"]

namespace Token

def isName (token : Token) : Bool := token.kind = .name && !keywords.contains token.text

def isSoftKeyword (token : Token) : Bool := token.kind = .name && softKeywords.contains token.text

def isText (token : Token) (text : String) : Bool :=
  token.text = text && (token.kind = .operator || (token.kind = .name && keywords.contains text))

end Token

inductive Numeral where
  | decimal
  | hexadecimal
  | octal
  | binary
  | imaginary
deriving DecidableEq, Repr

def Numeral.name : Numeral → String
  | .decimal => "decimal"
  | .hexadecimal => "hexadecimal"
  | .octal => "octal"
  | .binary => "binary"
  | .imaginary => "imaginary"

inductive TokenError where
  | mixedIndentation
  | unmatchedDedent
  | tooManyIndents
  | strayContinuation
  | badNumeral (numeral : Numeral)
  | badDigit (digit : Char) (numeral : Numeral)
  | leadingZeros
  | badCharacter (c : Char)
  | hiddenCharacter (c : Char)
  | openString (line : Nat)
  | openBlockString (line : Nat)
  | tooManyBrackets
  | unmatchedBracket (closing : Char)
  | wrongBracket (closing opening : Char) (line : Option Nat)
deriving DecidableEq, Repr

namespace TokenError

def codePoint (c : Char) : String :=
  let digits := (Nat.toDigits 16 c.toNat).map Char.toUpper
  "U+" ++ String.ofList (List.replicate (4 - digits.length) '0' ++ digits)

def message : TokenError → String
  | .mixedIndentation => "inconsistent use of tabs and spaces in indentation"
  | .unmatchedDedent => "unindent does not match any outer indentation level"
  | .tooManyIndents => "too many levels of indentation"
  | .strayContinuation => "unexpected character after line continuation character"
  | .badNumeral numeral => "invalid " ++ numeral.name ++ " literal"
  | .badDigit digit numeral => "invalid digit '" ++ digit.toString ++ "' in " ++ numeral.name ++ " literal"
  | .leadingZeros =>
      "leading zeros in decimal integer literals are not permitted; "
        ++ "use an 0o prefix for octal integers"
  | .badCharacter c => "invalid character '" ++ c.toString ++ "' (" ++ codePoint c ++ ")"
  | .hiddenCharacter c => "invalid non-printable character " ++ codePoint c
  | .openString line => "unterminated string literal (detected at line " ++ toString line ++ ")"
  | .openBlockString line =>
      "unterminated triple-quoted string literal (detected at line " ++ toString line ++ ")"
  | .tooManyBrackets => "too many nested parentheses"
  | .unmatchedBracket closing => "unmatched '" ++ closing.toString ++ "'"
  | .wrongBracket closing opening line =>
      "closing parenthesis '" ++ closing.toString ++ "' does not match opening parenthesis '"
        ++ opening.toString ++ "'"
        ++ (match line with | some line => " on line " ++ toString line | none => "")

-- Whether the error takes the place of one that was found earlier in the text. The others are only seen
-- when they are reached.
def overrides : TokenError → Bool
  | .mixedIndentation | .unmatchedDedent | .tooManyIndents | .strayContinuation => false
  | _ => true

end TokenError

inductive Stop where
  | finished
  | ended (line : Nat)
  | wrong (line : Nat) (error : TokenError)
deriving DecidableEq, Repr

structure Scan where
  tokens : Array Token
  stop : Stop
  brackets : List (Char × Nat)
deriving Repr

namespace Scan

-- Whether a character can be part of a name. Beyond ASCII this is looked at later.
def isNameChar (c : Char) : Bool :=
  Text.isAsciiLetter c || Text.isAsciiDigit c || c = '_' || 128 ≤ c.toNat

def numberEnds (text : List Char) : Bool := !((text.head?.map isNameChar).getD false)

def endNumber (numeral : Numeral) (text : List Char) : Except TokenError (List Char) :=
  if numberEnds text then .ok text else .error (.badNumeral numeral)

def decimalTail : List Char → Except TokenError (List Char)
  | '_' :: c :: rest => if Text.isAsciiDigit c then decimalTail rest else .error (.badNumeral .decimal)
  | c :: rest =>
      if Text.isAsciiDigit c then decimalTail rest
      else if c = '_' then .error (.badNumeral .decimal)
      else .ok (c :: rest)
  | [] => .ok []

def basedTail (numeral : Numeral) (isDigit : Char → Bool) :
    Bool → List Char → Except TokenError (List Char)
  | _, '_' :: c :: rest =>
      if isDigit c then basedTail numeral isDigit false rest else .error (wrongDigit c)
  | needed, c :: rest =>
      if isDigit c then basedTail numeral isDigit false rest
      else if needed || (Text.isAsciiDigit c && numeral ≠ .hexadecimal) then .error (wrongDigit c)
      else endNumber numeral (c :: rest)
  | _, [] => .error (.badNumeral numeral)
where
  wrongDigit (c : Char) : TokenError :=
    if Text.isAsciiDigit c then .badDigit c numeral else .badNumeral numeral

def numberSuffix : List Char → Except TokenError (List Char)
  | [] => .ok []
  | c :: rest =>
      if c = 'j' || c = 'J' then endNumber .imaginary rest else endNumber .decimal (c :: rest)

def exponentPart (text : List Char) : Except TokenError (List Char) :=
  match text with
  | [] => .ok []
  | mark :: rest =>
      if mark = 'e' || mark = 'E' then
        match rest with
        | [] => endNumber .decimal text
        | c :: rest =>
            if c = '+' || c = '-' then
              match rest with
              | d :: rest =>
                  if Text.isAsciiDigit d then decimalTail rest >>= numberSuffix
                  else .error (.badNumeral .decimal)
              | [] => .error (.badNumeral .decimal)
            else if Text.isAsciiDigit c then decimalTail rest >>= numberSuffix
            else endNumber .decimal text
      else numberSuffix text

def fractionPart : List Char → Except TokenError (List Char)
  | [] => .ok []
  | c :: rest =>
      if Text.isAsciiDigit c then decimalTail rest >>= exponentPart else exponentPart (c :: rest)

def leadingZeros : List Char → Except TokenError (List Char)
  | '_' :: c :: rest =>
      if c = '0' then leadingZeros rest
      else if Text.isAsciiDigit c then .ok (c :: rest)
      else .error (.badNumeral .decimal)
  | c :: rest =>
      if c = '0' then leadingZeros rest
      else if c = '_' then .error (.badNumeral .decimal)
      else .ok (c :: rest)
  | [] => .ok []

def afterZero (text : List Char) : Except TokenError (List Char) := do
  let rest ← leadingZeros text
  let nonzero := (rest.head?.map Text.isAsciiDigit).getD false
  let rest ← if nonzero then decimalTail rest else pure rest
  match rest with
  -- Only noughts may be written with leading zeros, and fractions.
  | [] => if nonzero then .error .leadingZeros else .ok []
  | c :: after =>
      if c = '.' then fractionPart after
      else if c = 'e' || c = 'E' then exponentPart rest
      else if c = 'j' || c = 'J' then numberSuffix rest
      else if nonzero then .error .leadingZeros
      else endNumber .decimal rest

def number (first : Char) (rest : List Char) : Except TokenError (List Char) :=
  if first = '.' then fractionPart rest
  else if first = '0' then
    match rest with
    | 'x' :: digits | 'X' :: digits => basedTail .hexadecimal Text.isHexDigit true digits
    | 'o' :: digits | 'O' :: digits =>
        basedTail .octal (fun c => Text.isAsciiDigit c && c < '8') true digits
    | 'b' :: digits | 'B' :: digits => basedTail .binary (fun c => c = '0' || c = '1') true digits
    | _ => afterZero rest
  else do
    match ← decimalTail rest with
    | '.' :: after => fractionPart after
    | after => exponentPart after

-- What follows a text in quotes, and the line of its end. The first number counts the quotes just seen, of
-- which `size` end the text. A text that does not end gives the line where that is seen.
def quotedTail (quote : Char) (size : Nat) : Nat → Nat → List Char → Except Nat (List Char × Nat)
  | _, line, [] => .error line
  | _, line, '\\' :: c :: rest => quotedTail quote size 0 (lineAfter c rest line) rest
  | seen, line, c :: rest =>
      if c = quote then
        if seen + 1 = size then .ok (rest, line) else quotedTail quote size (seen + 1) line rest
      else if c = '\n' && size = 1 then .error line
      else quotedTail quote size 0 (lineAfter c rest line) rest
where
  lineAfter (c : Char) (rest : List Char) (line : Nat) : Nat :=
    if c = '\n' && !rest.isEmpty then line + 1 else line

def quotedText (quote : Char) (line : Nat) (rest : List Char) : Except TokenError (List Char × Nat) :=
  match rest with
  | c :: d :: more =>
      if c = quote && d = quote then (quotedTail quote 3 0 line more).mapError .openBlockString
      else if c = quote then .ok (d :: more, line)
      else (quotedTail quote 1 0 line rest).mapError .openString
  | _ => (quotedTail quote 1 0 line rest).mapError .openString

def quoteMarks : List String := ["", "b", "r", "u", "f", "br", "rb", "fr", "rf"]

def quoteMark? (text : List Char) : Option Nat :=
  let letters := text.takeWhile Text.isAsciiLetter
  match (text.drop letters.length).head? with
  | some c =>
      if (c = '\'' || c = '"') && quoteMarks.contains (String.ofList (letters.map Char.toLower)) then
        some letters.length
      else none
  | none => none

def nameError? (name : List Char) : Option TokenError :=
  match name with
  | [] => none
  | first :: rest =>
      let wrong := if Text.isIdentifierStart first then rest.find? (!Text.isIdentifierRest ·)
        else some first
      wrong.map fun c => if Text.isPrintable c then .badCharacter c else .hiddenCharacter c

def knownName (name : List Char) : List Char :=
  if name.all (·.toNat < 128) then name
  else
    let known := Text.normal name
    if keywords.contains (String.ofList known) then name else known

def longOperators : List String :=
  [ "**=", "//=", "<<=", ">>=", "...", "!=", "%=", "&=", "**", "*=", "+=", "-=", "->", "//", "/=",
    ":=", "<<", "<=", "<>", "==", ">=", ">>", "@=", "^=", "|=" ]

def operator (text : List Char) : List Char :=
  match longOperators.find? fun operator => operator.toList.isPrefixOf text with
  | some operator => operator.toList
  | none => text.take 1

-- The columns of a line's first character: with tabs at every eighth column, and with tabs of one column. A
-- line continued before its first character has the columns where that happened.
structure Margin where
  column : Nat := 0
  narrow : Nat := 0
  joined : Nat := 0

namespace Margin

def effective (margin : Margin) : Nat × Nat :=
  if margin.joined = 0 then (margin.column, margin.narrow) else (margin.joined, margin.joined)

def ofText (line : Nat) (margin : Margin) : List Char → Except Stop (Margin × List Char × Nat)
  | ' ' :: rest =>
      ofText line { margin with column := margin.column + 1, narrow := margin.narrow + 1 } rest
  | '\t' :: rest =>
      ofText line { margin with
        column := (margin.column / 8 + 1) * 8, narrow := margin.narrow + 1 } rest
  | '\x0c' :: rest => ofText line { margin with column := 0, narrow := 0 } rest
  | '\\' :: '\n' :: rest =>
      if rest.isEmpty then .error (.ended line)
      else
        let joined := if margin.joined = 0 then margin.column else margin.joined
        ofText (line + 1) { margin with joined := joined } rest
  | '\\' :: _ => .error (.wrong line .strayContinuation)
  | rest => .ok (margin, rest, line)

end Margin

structure Scanner where
  rest : List Char
  line : Nat
  lineStart : Bool := true
  indents : List (Nat × Nat) := [(0, 0)]
  brackets : List (Char × Nat) := []
  tokens : Array Token := #[]

namespace Scanner

def stopped (scanner : Scanner) (stop : Stop) : Scan := ⟨scanner.tokens, stop, scanner.brackets⟩

def wrong {α : Type} (scanner : Scanner) (error : TokenError) : Except Scan α :=
  .error (scanner.stopped (.wrong scanner.line error))

def push (scanner : Scanner) (kind : TokenKind) (text : List Char) : Scanner :=
  { scanner with
    tokens := scanner.tokens.push ⟨kind, String.ofList text, scanner.line, scanner.brackets.length⟩ }

def nextLine (scanner : Scanner) : Scanner :=
  let rest := scanner.rest.drop 1
  { scanner with
    rest := rest, lineStart := true
    line := if rest.isEmpty then scanner.line else scanner.line + 1 }

def maxIndents : Nat := 100

def maxBrackets : Nat := 200

def indent (scanner : Scanner) (column narrow : Nat) : Except Scan Scanner :=
  match scanner.indents with
  | [] => .ok scanner
  | (outer, outerNarrow) :: _ =>
      if column = outer then
        if narrow = outerNarrow then .ok scanner else scanner.wrong .mixedIndentation
      else if outer < column then
        if maxIndents ≤ scanner.indents.length then scanner.wrong .tooManyIndents
        else if narrow ≤ outerNarrow then scanner.wrong .mixedIndentation
        else .ok { scanner.push .indent [] with indents := (column, narrow) :: scanner.indents }
      else
        let kept := scanner.indents.dropWhile fun (c, _) => column < c
        match kept with
        | (c, n) :: _ =>
            if column ≠ c then scanner.wrong .unmatchedDedent
            else if narrow ≠ n then scanner.wrong .mixedIndentation
            else
              let closed := scanner.indents.length - kept.length
              .ok { (List.range closed).foldl (fun s _ => s.push .dedent []) scanner with
                    indents := kept }
        | [] => .ok scanner

def startLine (scanner : Scanner) : Except Scan Scanner :=
  match Margin.ofText scanner.line {} scanner.rest with
  | .error stop => .error (scanner.stopped stop)
  | .ok (margin, rest, line) =>
      let scanner := { scanner with rest := rest, line := line }
      match rest with
      | '\n' :: _ => .ok scanner.nextLine
      | '#' :: _ => .ok { scanner with rest := rest.dropWhile (· ≠ '\n') }.nextLine
      | _ =>
          let scanner := { scanner with lineStart := false }
          if scanner.brackets.isEmpty then
            scanner.indent margin.effective.1 margin.effective.2
          else .ok scanner

def bracket (scanner : Scanner) (c : Char) : Except Scan Scanner :=
  if c = '(' || c = '[' || c = '\x7b' then
    if maxBrackets ≤ scanner.brackets.length then scanner.wrong .tooManyBrackets
    else .ok { scanner with brackets := (c, scanner.line) :: scanner.brackets }
  else if c = ')' || c = ']' || c = '\x7d' then
    match scanner.brackets with
    | [] => scanner.wrong (.unmatchedBracket c)
    | (opening, line) :: outer =>
        let inner := { scanner with brackets := outer }
        if (opening = '(' && c = ')') || (opening = '[' && c = ']')
            || (opening = '\x7b' && c = '\x7d') then
          .ok inner
        else
          inner.wrong
            (.wrongBracket c opening (if line = scanner.line then none else some line))
  else .ok scanner

def token (scanner : Scanner) (c : Char) (after : List Char) : Except Scan Scanner :=
  let text := c :: after
  match quoteMark? text with
  | some marks =>
      match text.drop marks with
      | quote :: body =>
          match quotedText quote scanner.line body with
          | .error error => scanner.wrong error
          | .ok (rest, line) =>
              let read := text.take (text.length - rest.length)
              .ok { scanner.push .string read with rest := rest, line := line }
      | [] => .ok { scanner with rest := after }
  | none =>
      if isNameChar c && !Text.isAsciiDigit c then
        let name := text.takeWhile isNameChar
        match if name.all (·.toNat < 128) then none else nameError? name with
        | some error => scanner.wrong error
        | none => .ok { scanner.push .name (knownName name) with rest := text.drop name.length }
      else if Text.isAsciiDigit c || (c = '.' && (after.head?.map Text.isAsciiDigit).getD false) then
        match number c after with
        | .error error => scanner.wrong error
        | .ok rest =>
            .ok { scanner.push .number (text.take (text.length - rest.length)) with rest := rest }
      else
        match operator text with
        | [single] =>
            match scanner.bracket single with
            | .error scan => .error scan
            | .ok scanner =>
                if Text.isPrintable single then .ok { scanner.push .operator [single] with rest := after }
                else scanner.wrong (.hiddenCharacter single)
        | long => .ok { scanner.push .operator long with rest := text.drop long.length }

def step (scanner : Scanner) : Except Scan Scanner :=
  if scanner.lineStart then scanner.startLine
  else
    match scanner.rest with
    | [] =>
        .error (if scanner.brackets.isEmpty then (scanner.push .finish []).stopped .finished
          else scanner.stopped (.ended scanner.line))
    | c :: after =>
        if c = ' ' || c = '\t' || c = '\x0c' then .ok { scanner with rest := after }
        else if c = '#' then .ok { scanner with rest := after.dropWhile (· ≠ '\n') }
        else if c = '\n' then
          .ok (if scanner.brackets.isEmpty then (scanner.push .newline []).nextLine else scanner.nextLine)
        else if c = '\\' then
          match after with
          | '\n' :: [] => .error (scanner.stopped (.ended scanner.line))
          | '\n' :: rest => .ok { scanner with rest := rest, line := scanner.line + 1 }
          | _ => scanner.wrong .strayContinuation
        else scanner.token c after

-- Goes on to the stop. Every step but that over a margin takes at least one character, and a line has one
-- margin, so that twice the length of the text is enough.
def run : Nat → Scanner → Scan
  | 0, scanner => scanner.stopped .finished
  | fuel + 1, scanner =>
      match scanner.step with
      | .error scan => scan
      | .ok scanner => run fuel scanner

end Scanner

def ofText (line : Nat) (text : List Char) : Scan :=
  Scanner.run (2 * text.length + 4) { rest := text, line := line }

end Scan

end MarkupLint.Script
