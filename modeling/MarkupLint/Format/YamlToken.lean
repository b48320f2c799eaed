import MarkupLint.Format.YamlFault
import MarkupLint.Text.Letter
import MarkupLint.Text.Search

set_option autoImplicit false

namespace MarkupLint.Yaml

inductive Directive where
  | version (major minor : Nat)
  | handle (name target : String)
  | other
deriving DecidableEq, Repr

inductive TokenKind where
  | streamEnd
  | directive (content : Directive)
  | documentStart
  | documentEnd
  | blockSequenceStart
  | blockMappingStart
  | blockEnd
  | flowSequenceStart
  | flowSequenceEnd
  | flowMappingStart
  | flowMappingEnd
  | key
  | value
  | blockEntry
  | flowEntry
  | reference (name : String)
  | anchor (name : String)
  | tag (handle : Option String) (ending : String)
  | scalar (text : String) (plain : Bool)
deriving DecidableEq, Repr

def TokenKind.title : TokenKind → String
  | .streamEnd => "<stream end>"
  | .directive _ => "<directive>"
  | .documentStart => "<document start>"
  | .documentEnd => "<document end>"
  | .blockSequenceStart => "<block sequence start>"
  | .blockMappingStart => "<block mapping start>"
  | .blockEnd => "<block end>"
  | .flowSequenceStart => "["
  | .flowSequenceEnd => "]"
  | .flowMappingStart => "\x7b"
  | .flowMappingEnd => "\x7d"
  | .key => "?"
  | .value => ":"
  | .blockEntry => "-"
  | .flowEntry => ","
  | .reference _ => "<alias>"
  | .anchor _ => "<anchor>"
  | .tag _ _ => "<tag>"
  | .scalar _ _ => "<scalar>"

structure Token where
  kind : TokenKind
  start : Mark
  stop : Mark
deriving DecidableEq, Repr

-- A token that turns out to begin a key if a colon follows on its line. It is required to when it stands
-- where only a key may.
structure PossibleKey where
  number : Nat
  required : Bool
  mark : Mark
deriving DecidableEq, Repr

structure Scanner where
  mark : Mark := {}
  rest : List Char
  flowLevel : Int := 0
  tokens : List Token := []
  taken : Nat := 0
  indent : Int := -1
  indents : List Int := []
  mayStartKey : Bool := true
  keys : List (Int × PossibleKey) := []
  isDone : Bool := false

abbrev Scanning := StateT Scanner (Except Fault)

def endOfText : Char := '\x00'

def isEnd (c : Char) : Bool := c = endOfText

def isBreakOrEnd (c : Char) : Bool := isEnd c || isBreak c

def isSpaceOrEnd (c : Char) : Bool := c = ' ' || isBreakOrEnd c

def isBlankOrEnd (c : Char) : Bool := c = '\t' || isSpaceOrEnd c

def isNameChar (c : Char) : Bool := Text.isAsciiLetter c || Text.isAsciiDigit c || c = '-' || c = '_'

def isUriChar (c : Char) : Bool :=
  Text.isAsciiLetter c || Text.isAsciiDigit c || "-;/?:@&=+$,_.!~*'()[]%".toList.contains c

namespace Mark

def after (mark : Mark) (c : Char) (rest : List Char) : Mark :=
  if (isBreak c && c ≠ '\r') || (c = '\r' && rest.head? ≠ some '\n') then
    ⟨mark.index + 1, mark.line + 1, 0⟩
  else if c = '\ufeff' then { mark with index := mark.index + 1 }
  else { mark with index := mark.index + 1, column := mark.column + 1 }

def advance (mark : Mark) : Nat → List Char → Mark
  | 0, _ => mark
  | _ + 1, [] => mark
  | count + 1, c :: rest => (mark.after c rest).advance count rest

end Mark

namespace Scanner

def charAt (scanner : Scanner) (offset : Nat) : Char := (scanner.rest.drop offset).headD endOfText

def atSeparator (scanner : Scanner) (sign : Char) : Bool :=
  scanner.rest.take 3 == [sign, sign, sign] && isBlankOrEnd (scanner.charAt 3)

def atDocumentSeparator (scanner : Scanner) : Bool :=
  scanner.atSeparator '-' || scanner.atSeparator '.'

def atPlain (scanner : Scanner) : Bool :=
  let c := scanner.charAt 0
  !(isBlankOrEnd c || "-?:,[]\x7b\x7d#&*!|>'\"%@\x60".toList.contains c)
    || (!isBlankOrEnd (scanner.charAt 1)
      && (c = '-' || (scanner.flowLevel = 0 && (c = '?' || c = ':'))))

def key? (scanner : Scanner) : Option PossibleKey :=
  (scanner.keys.find? (·.1 = scanner.flowLevel)).map (·.2)

def withoutKey (scanner : Scanner) : Scanner :=
  { scanner with keys := scanner.keys.filter (·.1 ≠ scanner.flowLevel) }

def maxKeyLength : Nat := 1024

def isStale (scanner : Scanner) (key : PossibleKey) : Bool :=
  key.mark.line ≠ scanner.mark.line || scanner.mark.index > key.mark.index + maxKeyLength

end Scanner

namespace Scanning

def peek (offset : Nat) : Scanning Char := return (← get).charAt offset

def mark : Scanning Mark := return (← get).mark

def forward (count : Nat) : Scanning Unit :=
  modify fun s => { s with mark := s.mark.advance count s.rest, rest := s.rest.drop count }

def takeWhile (test : Char → Bool) : Scanning (List Char) := do
  let run := (← get).rest.takeWhile test
  forward run.length
  return run

def skip (test : Char → Bool) : Scanning Unit := discard (takeWhile test)

def fault {α : Type} (activity : Option Activity) (start : Option Mark) (cause : Cause) : Scanning α := do
  throw (.marked activity start cause (← mark))

def expect {α : Type} (activity : Activity) (start : Mark) (what : String) (found : Char) : Scanning α :=
  fault activity start (.expected what found.toString)

def pushToken (kind : TokenKind) (start stop : Mark) : Scanning Unit :=
  modify fun s => { s with tokens := s.tokens ++ [⟨kind, start, stop⟩] }

def pushEmpty (kind : TokenKind) : Scanning Unit := do
  let place ← mark
  pushToken kind place place

def pushSign (kind : TokenKind) (length : Nat) : Scanning Unit := do
  let start ← mark
  forward length
  pushToken kind start (← mark)

def lineBreak : Scanning (List Char) := do
  let c ← peek 0
  if c = '\r' && (← peek 1) = '\n' then
    forward 2
    return ['\n']
  else if c = '\r' || c = '\n' || c = '\x85' then
    forward 1
    return ['\n']
  else if isBreak c then
    forward 1
    return [c]
  else return []

def allowKey (allowed : Bool) : Scanning Unit := modify fun s => { s with mayStartKey := allowed }

def staleKeyFault {α : Type} (key : PossibleKey) : Scanning α := fault Activity.simpleKey key.mark .colonMissing

def dropStaleKeys : Scanning Unit := do
  let s ← get
  match s.keys.find? fun entry => s.isStale entry.2 && entry.2.required with
  | some entry => staleKeyFault entry.2
  | none => set { s with keys := s.keys.filter fun entry => !s.isStale entry.2 }

def dropKey : Scanning Unit := do
  let s ← get
  match s.key? with
  | some key => if key.required then staleKeyFault key else set s.withoutKey
  | none => return

def noteKey : Scanning Unit := do
  let s ← get
  if s.mayStartKey then
    dropKey
    let required := s.flowLevel = 0 && s.indent == s.mark.column
    let key : PossibleKey := ⟨s.taken + s.tokens.length, required, s.mark⟩
    modify fun s => { s with keys := s.keys ++ [(s.flowLevel, key)] }

def unwindWithin : List Int → Int → Scanning Unit
  | [], _ => return
  | outer :: more, column => do
      if (← get).indent > column then
        modify fun s => { s with indent := outer, indents := more }
        pushEmpty .blockEnd
        unwindWithin more column

def unwind (column : Int) : Scanning Unit := do
  let s ← get
  if s.flowLevel = 0 then unwindWithin s.indents column

def addIndent (column : Nat) : Scanning Bool := do
  let s ← get
  if s.indent < column then
    set { s with indent := (column : Int), indents := s.indent :: s.indents }
    return true
  else return false

def number (start : Mark) : Scanning Nat := do
  let digits ← takeWhile Text.isAsciiDigit
  if digits.isEmpty then expect .directive start "a digit" (← peek 0)
  else return Text.digitsValue digits

def versionDirective (start : Mark) : Scanning Directive := do
  skip (· = ' ')
  let major ← number start
  if (← peek 0) ≠ '.' then expect .directive start "a digit or '.'" (← peek 0)
  forward 1
  let minor ← number start
  if !isSpaceOrEnd (← peek 0) then expect .directive start "a digit or ' '" (← peek 0)
  return .version major minor

def handle (activity : Activity) (start : Mark) : Scanning String := do
  let c ← peek 0
  if c ≠ '!' then expect activity start "'!'" c
  if (← peek 1) = ' ' then
    forward 1
    return "!"
  let name := ((← get).rest.drop 1).takeWhile isNameChar
  let next ← peek (name.length + 1)
  forward (name.length + 1)
  if next ≠ '!' then expect activity start "'!'" next
  forward 1
  return String.ofList ('!' :: name ++ ['!'])

def uriBytes (activity : Activity) (start : Mark) : Nat → Scanning (List UInt8)
  | 0 => return []
  | fuel + 1 => do
      if (← peek 0) ≠ '%' then return []
      forward 1
      let high ← peek 0
      let low ← peek 1
      if !Text.isHexDigit high then fault activity start (.uriDigits high)
      if !Text.isHexDigit low then fault activity start (.uriDigits low)
      forward 2
      return UInt8.ofNat (Text.hexValue [high, low]) :: (← uriBytes activity start fuel)

def uriEscapes (activity : Activity) (start : Mark) : Scanning (List Char) := do
  let place ← mark
  let bytes ← uriBytes activity start ((← get).rest.length + 1)
  match Text.decodeUtf8 bytes with
  | .ok text => return text
  | .error cause => throw (.marked activity start (.uriBytes cause) place)

def uriPieces (activity : Activity) (start : Mark) : Nat → Scanning (List Char)
  | 0 => return []
  | fuel + 1 => do
      let run ← takeWhile fun c => isUriChar c && c ≠ '%'
      if (← peek 0) = '%' then
        let escaped ← uriEscapes activity start
        return run ++ escaped ++ (← uriPieces activity start fuel)
      else return run

def uri (activity missing : Activity) (start : Mark) : Scanning String := do
  let c ← peek 0
  let text ← uriPieces activity start ((← get).rest.length + 1)
  if !isUriChar c then expect missing start "URI" c
  return String.ofList text

def handleDirective (start : Mark) : Scanning Directive := do
  skip (· = ' ')
  let name ← handle .directive start
  if (← peek 0) ≠ ' ' then expect .directive start "' '" (← peek 0)
  skip (· = ' ')
  let target ← uri .directive .directiveTarget start
  if !isSpaceOrEnd (← peek 0) then expect .directive start "' '" (← peek 0)
  return .handle name target

def restOfLine (activity : Activity) (start : Mark) : Scanning Unit := do
  skip (· = ' ')
  if (← peek 0) = '#' then skip (!isBreakOrEnd ·)
  let c ← peek 0
  if !isBreakOrEnd c then expect activity start "a comment or a line break" c
  discard lineBreak

def directive : Scanning Unit := do
  let start ← mark
  forward 1
  let name ← takeWhile isNameChar
  let c ← peek 0
  if name.isEmpty || !isSpaceOrEnd c then
    expect .directive start "alphabetic or numeric character" c
  let content ←
    if name = "YAML".toList then versionDirective start
    else if name = "TAG".toList then handleDirective start
    else pure .other
  let stop ← mark
  if content = .other then skip (!isBreakOrEnd ·)
  restOfLine .directive start
  pushToken (.directive content) start stop

def anchorName (activity : Activity) (kind : String → TokenKind) : Scanning Unit := do
  let start ← mark
  forward 1
  let name ← takeWhile isNameChar
  let c ← peek 0
  if name.isEmpty || !(isBlankOrEnd c || "?:,]\x7d%@\x60".toList.contains c) then
    expect activity start "alphabetic or numeric character" c
  pushToken (kind (String.ofList name)) start (← mark)

def tagParts (start : Mark) : Scanning (Option String × String) := do
  let c ← peek 1
  if c = '<' then
    forward 2
    let name ← uri .tag .tagName start
    if (← peek 0) ≠ '>' then expect .tagName start "'>'" (← peek 0)
    forward 1
    return (none, name)
  else if isBlankOrEnd c then
    forward 1
    return (none, "!")
  else
    let word := ((← get).rest.drop 1).takeWhile (!isSpaceOrEnd ·)
    if word.contains '!' then
      let name ← handle .tag start
      return (some name, ← uri .tag .tagName start)
    else
      forward 1
      return (some "!", ← uri .tag .tagName start)

def tag : Scanning Unit := do
  let start ← mark
  let (name, ending) ← tagParts start
  let c ← peek 0
  if !isSpaceOrEnd c then expect .tag start "' '" c
  pushToken (.tag name ending) start (← mark)

inductive Chomping where
  | clip
  | strip
  | keep
deriving DecidableEq, Repr

def chomping? : Char → Option Chomping
  | '+' => some .keep
  | '-' => some .strip
  | _ => none

def readChomping : Scanning (Option Chomping) := do
  let found := chomping? (← peek 0)
  if found.isSome then forward 1
  return found

def readIncrement (start : Mark) : Scanning (Option Nat) := do
  let c ← peek 0
  if c = '0' then fault Activity.blockScalar start .zeroIndentation
  else if Text.isAsciiDigit c then
    forward 1
    return some (Text.digitsValue [c])
  else return none

def blockHeader (start : Mark) : Scanning (Chomping × Option Nat) := do
  let early ← readChomping
  let increment ← readIncrement start
  let late ← if early.isNone && increment.isSome then readChomping else pure none
  let c ← peek 0
  if !isSpaceOrEnd c then
    expect .blockScalar start "chomping or indentation indicators" c
  return (((early <|> late).getD .clip), increment)

def leadingBreaks : Nat → List (List Char) → Nat → Mark → Scanning (List (List Char) × Nat × Mark)
  | 0, breaks, deepest, stop => return (breaks, deepest, stop)
  | fuel + 1, breaks, deepest, stop => do
      let c ← peek 0
      if c = ' ' then
        forward 1
        leadingBreaks fuel breaks (max deepest (← mark).column) stop
      else if isBreak c then
        let text ← lineBreak
        leadingBreaks fuel (breaks ++ [text]) deepest (← mark)
      else return (breaks, deepest, stop)

def skipIndent (column : Nat) : Scanning Unit := do
  let s ← get
  forward ((s.rest.take (column - s.mark.column)).takeWhile (· = ' ')).length

def blockBreaks (column : Nat) : Nat → List (List Char) → Mark → Scanning (List (List Char) × Mark)
  | 0, breaks, stop => return (breaks, stop)
  | fuel + 1, breaks, stop => do
      skipIndent column
      if isBreak (← peek 0) then
        let text ← lineBreak
        blockBreaks column fuel (breaks ++ [text]) (← mark)
      else return (breaks, stop)

def blockBreaksHere (column : Nat) : Scanning (List (List Char) × Mark) := do
  blockBreaks column ((← get).rest.length + 1) [] (← mark)

structure BlockText where
  text : List Char := []
  lastBreak : List Char := []
  breaks : List (List Char)
  stop : Mark

def atBlockLine (column : Nat) : Scanning Bool := do
  return (← mark).column = column && !isEnd (← peek 0)

def blockLines (folded : Bool) (column : Nat) : Nat → BlockText → Scanning BlockText
  | 0, found => return found
  | fuel + 1, found => do
      if !(← atBlockLine column) then return found
      let first ← peek 0
      let line ← takeWhile (!isBreakOrEnd ·)
      let ending ← lineBreak
      let (breaks, stop) ← blockBreaksHere column
      let text := found.text ++ found.breaks.flatten ++ line
      if ← atBlockLine column then
        let next ← peek 0
        let isBlank := fun c : Char => c = ' ' || c = '\t'
        let joint :=
          if folded && ending = ['\n'] && !isBlank first && !isBlank next then
            if breaks.isEmpty then [' '] else []
          else ending
        blockLines folded column fuel ⟨text ++ joint, ending, breaks, stop⟩
      else return ⟨text, ending, breaks, stop⟩

def blockScalar (folded : Bool) : Scanning Unit := do
  let start ← mark
  forward 1
  let (chomping, increment) ← blockHeader start
  restOfLine .blockScalar start
  let least := ((← get).indent + 1).toNat.max 1
  let size := (← get).rest.length + 1
  let (column, breaks, stop) ← match increment with
    | some increment => do
        let column := least + increment - 1
        let (breaks, stop) ← blockBreaksHere column
        pure (column, breaks, stop)
    | none => do
        let (breaks, deepest, stop) ← leadingBreaks size [] 0 (← mark)
        pure (max least deepest, breaks, stop)
  let found ← blockLines folded column size { breaks, stop }
  let ending := if chomping = .strip then [] else found.lastBreak
  let more := if chomping = .keep then found.breaks.flatten else []
  pushToken (.scalar (String.ofList (found.text ++ ending ++ more)) false) start found.stop

def escapeTable : List (Char × Nat) :=
  [('0', 0), ('a', 7), ('b', 8), ('t', 9), ('\t', 9), ('n', 10), ('v', 11), ('f', 12), ('r', 13),
    ('e', 27), (' ', 32), ('"', 34), ('\\', 92), ('/', 47), ('N', 0x85), ('_', 0xA0), ('L', 0x2028),
    ('P', 0x2029)]

def escapeLength? : Char → Option Nat
  | 'x' => some 2
  | 'u' => some 4
  | 'U' => some 8
  | _ => none

def quotedBreaks (start : Mark) : Nat → Scanning (List (List Char))
  | 0 => return []
  | fuel + 1 => do
      if (← get).atDocumentSeparator then
        fault Activity.quotedScalar start .documentSeparator
      skip fun c => c = ' ' || c = '\t'
      if isBreak (← peek 0) then
        let text ← lineBreak
        return text :: (← quotedBreaks start fuel)
      else return []

def quotedBreaksHere (start : Mark) : Scanning (List (List Char)) := do
  quotedBreaks start ((← get).rest.length + 1)

def escape (start : Mark) : Scanning (List Char) := do
  let c ← peek 0
  match escapeTable.lookup c, escapeLength? c with
  | some code, _ =>
      forward 1
      return [Char.ofNat code]
  | none, some length =>
      forward 1
      let digits := (List.range length).map (← get).charAt
      match digits.find? (!Text.isHexDigit ·) with
      | some found => fault Activity.escape start (.escapeDigits length found)
      | none =>
          let code := Text.hexValue digits
          if code ≥ 0x110000 then throw (.failed (.value "chr() arg not in range(0x110000)"))
          forward length
          return [Char.ofNat code]
  | none, none =>
      if isBreak c then
        discard lineBreak
        return (← quotedBreaksHere start).flatten
      else fault Activity.escape start (.unknownEscape c)

def quotedWord (double : Bool) (start : Mark) : Nat → Scanning (List Char)
  | 0 => return []
  | fuel + 1 => do
      let run ← takeWhile fun c => !(isBlankOrEnd c || c = '\'' || c = '"' || c = '\\')
      let c ← peek 0
      if !double && c = '\'' && (← peek 1) = '\'' then
        forward 2
        return run ++ '\'' :: (← quotedWord double start fuel)
      else if (double && c = '\'') || (!double && (c = '"' || c = '\\')) then
        forward 1
        return run ++ c :: (← quotedWord double start fuel)
      else if double && c = '\\' then
        forward 1
        let text ← escape start
        return run ++ text ++ (← quotedWord double start fuel)
      else return run

-- Blanks between words inside quotes: a line break alone is folded to a space.
def quotedBlanks (start : Mark) : Scanning (List Char) := do
  let blanks ← takeWhile fun c => c = ' ' || c = '\t'
  let c ← peek 0
  if isEnd c then fault Activity.quotedScalar start .endOfText
  else if isBreak c then
    let ending ← lineBreak
    let breaks ← quotedBreaksHere start
    let joint := if ending ≠ ['\n'] then ending else if breaks.isEmpty then [' '] else []
    return joint ++ breaks.flatten
  else return blanks

def quotedText (double : Bool) (start : Mark) : Nat → Scanning (List Char)
  | 0 => return []
  | fuel + 1 => do
      let size := (← get).rest.length + 1
      let word ← quotedWord double start size
      if (← peek 0) = (if double then '"' else '\'') then return word
      let blanks ← quotedBlanks start
      return word ++ blanks ++ (← quotedText double start fuel)

def quotedScalar (double : Bool) : Scanning Unit := do
  let start ← mark
  forward 1
  let text ← quotedText double start ((← get).rest.length + 1)
  forward 1
  pushToken (.scalar (String.ofList text) false) start (← mark)

def plainLength (inFlow : Bool) : List Char → Nat
  | [] => 0
  | c :: rest =>
      let next := rest.headD endOfText
      let flowSign := fun c : Char => inFlow && ",[]\x7b\x7d".toList.contains c
      if isBlankOrEnd c || (c = ':' && (isBlankOrEnd next || flowSign next))
          || flowSign c || (inFlow && c = '?') then 0
      else plainLength inFlow rest + 1

-- Breaks and indentation between the lines of a plain scalar; none if a line that divides documents comes.
def plainBreaks : Nat → List (List Char) → Scanning (Option (List (List Char)))
  | 0, breaks => return some breaks
  | fuel + 1, breaks => do
      if (← peek 0) = ' ' then
        forward 1
        plainBreaks fuel breaks
      else if isBreak (← peek 0) then
        let text ← lineBreak
        if (← get).atDocumentSeparator then return none
        plainBreaks fuel (breaks ++ [text])
      else return some breaks

def plainBlanks : Scanning (List Char) := do
  let blanks ← takeWhile (· = ' ')
  if !isBreak (← peek 0) then return blanks
  let ending ← lineBreak
  allowKey true
  if (← get).atDocumentSeparator then return []
  match ← plainBreaks ((← get).rest.length + 1) [] with
  | none => return []
  | some breaks =>
      let joint := if ending ≠ ['\n'] then ending else if breaks.isEmpty then [' '] else []
      return joint ++ breaks.flatten

def plainWords (column : Int) : Nat → List Char → List Char → Mark → Scanning (List Char × Mark)
  | 0, text, _, stop => return (text, stop)
  | fuel + 1, text, blanks, stop => do
      if (← peek 0) = '#' then return (text, stop)
      let s ← get
      let length := plainLength (s.flowLevel ≠ 0) s.rest
      if length = 0 then return (text, stop)
      allowKey false
      let word := s.rest.take length
      forward length
      let stop ← mark
      let more ← plainBlanks
      let text := text ++ blanks ++ word
      if more.isEmpty || (← peek 0) = '#'
          || ((← get).flowLevel = 0 && ((← mark).column : Int) < column) then
        return (text, stop)
      else plainWords column fuel text more stop

def plainScalar : Scanning Unit := do
  let start ← mark
  let s ← get
  let (text, stop) ← plainWords (s.indent + 1) (s.rest.length + 1) [] [] start
  pushToken (.scalar (String.ofList text) true) start stop

def skipToToken : Nat → Scanning Unit
  | 0 => return
  | fuel + 1 => do
      skip (· = ' ')
      if (← peek 0) = '#' then skip (!isBreakOrEnd ·)
      let text ← lineBreak
      if !text.isEmpty then
        if (← get).flowLevel = 0 then allowKey true
        skipToToken fuel

def closeBlocks : Scanning Unit := do
  unwind (-1)
  dropKey
  allowKey false

def flowStart (kind : TokenKind) : Scanning Unit := do
  noteKey
  modify fun s => { s with flowLevel := s.flowLevel + 1, mayStartKey := true }
  pushSign kind 1

def flowEnd (kind : TokenKind) : Scanning Unit := do
  dropKey
  modify fun s => { s with flowLevel := s.flowLevel - 1, mayStartKey := false }
  pushSign kind 1

def openBlock (what : String) (kind : TokenKind) : Scanning Unit := do
  let s ← get
  if s.flowLevel = 0 then
    if !s.mayStartKey then fault none none (.notAllowedHere what)
    if ← addIndent s.mark.column then pushEmpty kind

def blockEntry : Scanning Unit := do
  openBlock "sequence entries" .blockSequenceStart
  allowKey true
  dropKey
  pushSign .blockEntry 1

def explicitKey : Scanning Unit := do
  openBlock "mapping keys" .blockMappingStart
  allowKey ((← get).flowLevel = 0)
  dropKey
  pushSign .key 1

def insertTokens (number : Nat) (kinds : List TokenKind) (place : Mark) : Scanning Unit :=
  modify fun s =>
    let index := number - s.taken
    { s with
      tokens := s.tokens.take index ++ kinds.map (fun kind => ⟨kind, place, place⟩)
        ++ s.tokens.drop index }

def value : Scanning Unit := do
  let s ← get
  match s.key? with
  | some key =>
      set s.withoutKey
      let opened ← if s.flowLevel = 0 then addIndent key.mark.column else pure false
      insertTokens key.number (if opened then [.blockMappingStart, .key] else [.key]) key.mark
      allowKey false
  | none =>
      openBlock "mapping values" .blockMappingStart
      allowKey (s.flowLevel = 0)
      dropKey
  pushSign .value 1

def withKey (token : Scanning Unit) : Scanning Unit := do
  noteKey
  allowKey false
  token

def withoutKey (token : Scanning Unit) : Scanning Unit := do
  allowKey true
  dropKey
  token

def finish : Scanning Unit := do
  closeBlocks
  pushEmpty .streamEnd
  modify fun s => { s with keys := [], isDone := true }

def fetch : Scanning Unit := do
  if (← mark).index = 0 && (← peek 0) = '\ufeff' then forward 1
  skipToToken ((← get).rest.length + 1)
  dropStaleKeys
  unwind (← mark).column
  let s ← get
  let c := s.charAt 0
  let blankNext := isBlankOrEnd (s.charAt 1)
  let atLineStart := s.mark.column = 0
  let inFlow := s.flowLevel ≠ 0
  if isEnd c then finish
  else if c = '%' && atLineStart then
    closeBlocks
    directive
  else if atLineStart && s.atSeparator '-' then
    closeBlocks
    pushSign .documentStart 3
  else if atLineStart && s.atSeparator '.' then
    closeBlocks
    pushSign .documentEnd 3
  else if c = '[' then flowStart .flowSequenceStart
  else if c = '\x7b' then flowStart .flowMappingStart
  else if c = ']' then flowEnd .flowSequenceEnd
  else if c = '\x7d' then flowEnd .flowMappingEnd
  else if c = ',' then
    withoutKey (pushSign .flowEntry 1)
  else if c = '-' && blankNext then blockEntry
  else if c = '?' && (inFlow || blankNext) then explicitKey
  else if c = ':' && (inFlow || blankNext) then value
  else if c = '*' then withKey (anchorName .reference .reference)
  else if c = '&' then withKey (anchorName .anchor .anchor)
  else if c = '!' then withKey tag
  else if c = '|' && !inFlow then withoutKey (blockScalar false)
  else if c = '>' && !inFlow then withoutKey (blockScalar true)
  else if c = '\'' then withKey (quotedScalar false)
  else if c = '"' then withKey (quotedScalar true)
  else if s.atPlain then withKey plainScalar
  else fault Activity.nextToken none (.cannotStart c)

def needsMore : Scanning Bool := do
  if (← get).isDone then return false
  if (← get).tokens.isEmpty then return true
  dropStaleKeys
  let s ← get
  return (s.keys.map (·.2.number)).min? = some s.taken

def prepareWithin : Nat → Scanning Unit
  | 0 => return
  | fuel + 1 => do
      if ← needsMore then
        fetch
        prepareWithin fuel

def prepare : Scanning Unit := do prepareWithin ((← get).rest.length + 2)

def next : Scanning Token := do
  prepare
  return (← get).tokens.headD ⟨.streamEnd, {}, {}⟩

def take : Scanning Token := do
  let token ← next
  modify fun s => { s with tokens := s.tokens.drop 1, taken := s.taken + 1 }
  return token

end Scanning

end MarkupLint.Yaml
