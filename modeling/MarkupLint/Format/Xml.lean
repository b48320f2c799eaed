import MarkupLint.Format.XmlLetter
import MarkupLint.Text.Letter
import MarkupLint.Text.Search

set_option autoImplicit false

namespace MarkupLint.Xml

inductive Cause where
  | noElement
  | wrongToken
  | openToken
  | misplacedToken
  | mismatchedTag
  | duplicateAttribute
  | contentAfterEnd
  | undefinedEntity
  | unknownEntity (name : String)
  | recursiveEntity
  | unbalancedEntity
  | externalEntityInAttribute
  | binaryEntity
  | badCharacterNumber
  | badPublicId
  | parameterEntity
  | misplacedDeclaration
  | badDeclaration
  | openCharacterData
  | unboundScope
  | reservedScope
  | reservedXmlScope
  | reservedAddress
  | emptyScope
deriving DecidableEq, Repr

def Cause.message : Cause → String
  | .noElement => "no element found"
  | .wrongToken => "not well-formed (invalid token)"
  | .openToken => "unclosed token"
  | .misplacedToken => "syntax error"
  | .mismatchedTag => "mismatched tag"
  | .duplicateAttribute => "duplicate attribute"
  | .contentAfterEnd => "junk after document element"
  | .undefinedEntity => "undefined entity"
  | .unknownEntity name => "undefined entity &" ++ name ++ ";"
  | .recursiveEntity => "recursive entity reference"
  | .unbalancedEntity => "asynchronous entity"
  | .externalEntityInAttribute => "reference to external entity in attribute"
  | .binaryEntity => "reference to binary entity"
  | .badCharacterNumber => "reference to invalid character number"
  | .badPublicId => "illegal character(s) in public id"
  | .parameterEntity => "illegal parameter entity reference"
  | .misplacedDeclaration => "XML or text declaration not at start of entity"
  | .badDeclaration => "XML declaration not well-formed"
  | .openCharacterData => "unclosed CDATA section"
  | .unboundScope => "unbound prefix"
  | .reservedScope => "reserved prefix (xmlns) must not be declared or undeclared"
  | .reservedXmlScope =>
      "reserved prefix (xml) must not be undeclared or bound to another namespace name"
  | .reservedAddress => "prefix must not be bound to one of the reserved namespace names"
  | .emptyScope => "must not undeclare prefix"

structure Fault where
  cause : Cause
  left : Nat
deriving DecidableEq, Repr

inductive Trouble where
  | cutOff
  | wrong (left : Nat)
deriving DecidableEq, Repr

def Trouble.fault (start : Nat) : Trouble → Fault
  | .cutOff => ⟨.openToken, start⟩
  | .wrong left => ⟨.wrongToken, left⟩

def isSpace (c : Char) : Bool := c = ' ' || c = '\t' || c = '\n' || c = '\r'

def isAllowed (c : Char) : Bool :=
  isSpace c || (0x20 ≤ c.toNat && c.toNat ≠ 0xfffe && c.toNat ≠ 0xffff)

def isNameStart (c : Char) : Bool := c = '_' || letterSet.contains c

def isNameChar (c : Char) : Bool := isNameStart c || c = '.' || c = '-' || markSet.contains c

def wrongAt {α : Type} (text : List Char) : Except Trouble α :=
  .error (if text.isEmpty then .cutOff else .wrong text.length)

def readName (text : List Char) : Except Trouble (List Char × List Char) :=
  match text with
  | [] => .error .cutOff
  | c :: rest =>
      if isNameStart c then .ok (c :: rest.takeWhile isNameChar, rest.dropWhile isNameChar)
      else wrongAt text

structure ScopedName where
  scope : List Char
  name : List Char
deriving DecidableEq, Repr

def ScopedName.text (name : ScopedName) : List Char :=
  if name.scope.isEmpty then name.name else name.scope ++ ':' :: name.name

def readScopedName (text : List Char) : Except Trouble (ScopedName × List Char) := do
  let (first, rest) ← readName text
  match rest with
  | ':' :: more =>
      let (second, rest) ← readName more
      match rest with
      | ':' :: _ => wrongAt rest
      | _ => pure (⟨first, second⟩, rest)
  | _ => pure (⟨[], first⟩, rest)

inductive Reference where
  | entity (name : List Char)
  | character (c : Option Char)
deriving DecidableEq, Repr

def isValidNumber (number : Nat) : Bool :=
  number < 0x110000 && !(0xd800 ≤ number && number < 0xe000) && isAllowed (Char.ofNat number)

def readNumber (base : Nat) (isDigit : Char → Bool) (text : List Char) :
    Except Trouble (Reference × List Char) :=
  let digits := text.takeWhile isDigit
  let number := digits.foldl (fun n c => min 0x110000
    (base * n + (if c.isDigit then c.toNat - 48 else c.toLower.toNat - 87))) 0
  match digits, text.dropWhile isDigit with
  | [], rest => wrongAt rest
  | _, ';' :: rest =>
      .ok (.character (if isValidNumber number then some (Char.ofNat number) else none), rest)
  | _, rest => wrongAt rest

def readReference (text : List Char) : Except Trouble (Reference × List Char) :=
  match text with
  | '#' :: 'x' :: digits => readNumber 16 Text.isHexDigit digits
  | '#' :: digits => readNumber 10 Text.isAsciiDigit digits
  | _ => do
      let (name, rest) ← readName text
      match rest with
      | ';' :: rest => pure (.entity name, rest)
      | _ => wrongAt rest

structure Attribute where
  name : ScopedName
  left : Nat
  value : List Char
  after : Nat

def readValue (quote : Char) : Nat → List Char → Except Trouble (List Char × List Char)
  | 0, _ | _, [] => .error .cutOff
  | fuel + 1, c :: rest =>
      if c = quote then .ok ([], rest)
      else if c = '&' then do
        let (_, after) ← readReference rest
        let (value, rest') ← readValue quote fuel after
        pure ((c :: rest).take (rest.length + 1 - after.length) ++ value, rest')
      else if c = '<' || !isAllowed c then wrongAt (c :: rest)
      else do
        let (value, after) ← readValue quote fuel rest
        pure (c :: value, after)

def readTagEnd (text : List Char) : Except Trouble (Bool × List Char) :=
  match text with
  | '>' :: rest => .ok (false, rest)
  | '/' :: '>' :: rest => .ok (true, rest)
  | '/' :: rest => wrongAt rest
  | _ => wrongAt text

def readAttributes : Nat → List Char → Except Trouble ((List Attribute × Bool) × List Char)
  | 0, _ => .error .cutOff
  | fuel + 1, text =>
      let rest := text.dropWhile isSpace
      match rest with
      | [] => .error .cutOff
      | c :: _ =>
          if c = '>' || c = '/' then do
            let (isEmpty, after) ← readTagEnd rest
            pure (([], isEmpty), after)
          else if rest.length = text.length then wrongAt rest
          else do
            let (name, after) ← readScopedName rest
            match after.dropWhile isSpace with
            | '=' :: after =>
                match after.dropWhile isSpace with
                | quote :: after =>
                    if quote = '"' || quote = '\'' then
                      let (value, after) ← readValue quote (after.length + 1) after
                      let left := after.length + 1
                      let ((others, isEmpty), after) ← readAttributes fuel after
                      pure ((⟨name, rest.length, value, left⟩ :: others, isEmpty), after)
                    else wrongAt (quote :: after)
                | [] => .error .cutOff
            | after => wrongAt after

def readStartTag (text : List Char) :
    Except Trouble ((ScopedName × List Attribute × Bool) × List Char) := do
  let (name, rest) ← readScopedName text
  let ((attributes, isEmpty), rest) ← readAttributes (rest.length + 1) rest
  pure ((name, attributes, isEmpty), rest)

def readEndTag (text : List Char) : Except Trouble (List Char × List Char) := do
  let _ ← readName text
  let isTagChar (c : Char) : Bool := isNameChar c || c = ':'
  match (text.dropWhile isTagChar).dropWhile isSpace with
  | '>' :: rest => pure (text.takeWhile isTagChar, rest)
  | rest => wrongAt rest

def readCommentText : List Char → Except Trouble (List Char)
  | '-' :: '-' :: '>' :: rest => .ok rest
  | '-' :: '-' :: rest => wrongAt rest
  | c :: rest => if isAllowed c then readCommentText rest else wrongAt (c :: rest)
  | [] => .error .cutOff

def readComment : List Char → Except Trouble (List Char)
  | '-' :: rest => readCommentText rest
  | text => wrongAt text

def readInstructionText : List Char → Except Trouble (List Char × List Char)
  | '?' :: '>' :: rest => .ok ([], rest)
  | c :: rest =>
      if isAllowed c then (readInstructionText rest).map fun (text, after) => (c :: text, after)
      else wrongAt (c :: rest)
  | [] => .error .cutOff

def readInstruction (text : List Char) : Except Trouble ((List Char × List Char) × List Char) := do
  let (target, rest) ← readName text
  let reserved := target.map Char.toLower = ['x', 'm', 'l'] && target ≠ ['x', 'm', 'l']
  match rest with
  | '?' :: '>' :: after => if reserved then wrongAt rest else pure ((target, []), after)
  | '?' :: after => if reserved then wrongAt rest else wrongAt after
  | c :: _ =>
      if isSpace c && !reserved then
        let (body, after) ← readInstructionText rest
        pure ((target, body), after)
      else wrongAt rest
  | [] => .error .cutOff

def readDataOpening (text : List Char) : Except Trouble (List Char) :=
  let opening := "CDATA[".toList
  if text.length < opening.length then .error .cutOff
  else
    let same := (text.zip opening).takeWhile fun (a, b) => a = b
    if same.length = opening.length then .ok (text.drop opening.length)
    else .error (.wrong (text.length - same.length))

inductive PrologToken where
  | space
  | declaration (text : List Char)
  | instruction
  | comment
  | declarationOpen (keyword : List Char)
  | element
  | literal (text : List Char)
  | name (text : List Char)
  | scopedName (text : List Char)
  | nameToken
  | markedName
  | openBracket
  | closeBracket
  | sectionOpen
  | sectionClose
  | comma
  | bar
  | openParen
  | closeParen (mark : Option Char)
  | close
  | pound (text : List Char)
  | percent
  | parameterEntity
deriving DecidableEq, Repr

def readLiteral (quote : Char) : List Char → Except Trouble (List Char × List Char)
  | [] => .error .cutOff
  | c :: rest =>
      if c = quote then
        match rest with
        | [] => .ok ([], [])
        | d :: _ =>
            if isSpace d || d = '>' || d = '%' || d = '[' then .ok ([], rest) else wrongAt rest
      else if isAllowed c then (readLiteral quote rest).map fun (text, after) => (c :: text, after)
      else wrongAt (c :: rest)

def readDeclarationOpening (text : List Char) : Except Trouble (PrologToken × List Char) :=
  match text with
  | '-' :: rest => (readComment rest).map fun after => (.comment, after)
  | '[' :: rest => .ok (.sectionOpen, rest)
  | c :: _ =>
      if Text.isAsciiLetter c || c = '_' then
        let isKeywordChar (c : Char) : Bool := Text.isAsciiLetter c || c = '_'
        let keyword := text.takeWhile isKeywordChar
        match text.dropWhile isKeywordChar with
        | '%' :: [] => .error .cutOff
        | '%' :: d :: rest =>
            if isSpace d || d = '%' then wrongAt ('%' :: d :: rest)
            else .ok (.declarationOpen keyword, '%' :: d :: rest)
        | d :: rest =>
            if isSpace d then .ok (.declarationOpen keyword, d :: rest) else wrongAt (d :: rest)
        | [] => .error .cutOff
      else wrongAt text
  | [] => .error .cutOff

def readOpening (text : List Char) : Except Trouble (PrologToken × List Char) :=
  match text with
  | '!' :: rest => readDeclarationOpening rest
  | '?' :: rest =>
      (readInstruction rest).map fun ((target, body), after) =>
        (if target = ['x', 'm', 'l'] then .declaration body else .instruction, after)
  | c :: _ => if isNameStart c then .ok (.element, text) else wrongAt text
  | [] => .error .cutOff

def endsPrologName (c : Char) : Bool :=
  isSpace c || c = '>' || c = ')' || c = ',' || c = '|' || c = '[' || c = '%'

def endPrologName (token : PrologToken) (text : List Char) :
    Except Trouble (PrologToken × List Char) :=
  match text with
  | [] => .ok (token, [])
  | c :: rest =>
      if endsPrologName c then .ok (token, text)
      else if (c = '+' || c = '*' || c = '?') && token ≠ .nameToken then .ok (.markedName, rest)
      else wrongAt text

def readPrologName (text : List Char) : Except Trouble (PrologToken × List Char) :=
  match text with
  | [] => .error .cutOff
  | c :: rest =>
      if isNameStart c then
        let name := c :: rest.takeWhile isNameChar
        match rest.dropWhile isNameChar with
        | ':' :: [] => .error .cutOff
        | ':' :: d :: more =>
            let isPart (c : Char) : Bool := isNameChar c || c = ':'
            let after := (d :: more).dropWhile isPart
            let local? := (d :: more).takeWhile isPart
            let token := if isNameChar d && !local?.contains ':' then
              PrologToken.scopedName (name ++ ':' :: local?) else .nameToken
            endPrologName token after
        | after => endPrologName (.name name) after
      else if isNameChar c || c = ':' then
        endPrologName .nameToken (rest.dropWhile fun c => isNameChar c || c = ':')
      else wrongAt text

def readPrologToken (text : List Char) : Except Trouble (PrologToken × List Char) :=
  match text with
  | [] => .error .cutOff
  | c :: rest =>
      if isSpace c then .ok (.space, rest.dropWhile isSpace)
      else if c = '<' then readOpening rest
      else if c = '"' || c = '\'' then
        (readLiteral c rest).map fun (text, after) => (.literal text, after)
      else if c = '%' then
        match rest with
        | [] => .error .cutOff
        | d :: _ =>
            if isSpace d || d = '%' then .ok (.percent, rest)
            else do
              let (_, after) ← readName rest
              match after with
              | ';' :: after => pure (.parameterEntity, after)
              | _ => wrongAt after
      else if c = ',' then .ok (.comma, rest)
      else if c = '|' then .ok (.bar, rest)
      else if c = '[' then .ok (.openBracket, rest)
      else if c = ']' then
        match rest with
        | ']' :: '>' :: after => .ok (.sectionClose, after)
        | [']'] => .error .cutOff
        | _ => .ok (.closeBracket, rest)
      else if c = '(' then .ok (.openParen, rest)
      else if c = ')' then
        match rest with
        | [] => .ok (.closeParen none, [])
        | d :: after =>
            if d = '*' || d = '?' || d = '+' then .ok (.closeParen (some d), after)
            else if isSpace d || d = '>' || d = ',' || d = '|' || d = ')' then
              .ok (.closeParen none, rest)
            else wrongAt rest
      else if c = '>' then .ok (.close, rest)
      else if c = '#' then do
        let (name, after) ← readName rest
        match after with
        | [] => pure (.pound name, [])
        | d :: _ =>
            if isSpace d || d = ')' || d = '>' || d = '%' || d = '|' then pure (.pound name, after)
            else wrongAt after
      else readPrologName text

end MarkupLint.Xml
