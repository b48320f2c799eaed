import MarkupLint.Script.Parse
import MarkupLint.Script.Rules
import MarkupLint.Text.CharacterName

set_option autoImplicit false

namespace MarkupLint.Script

structure Quotation where
  marks : List Char
  body : List Char
deriving Repr

namespace Quotation

def ofText (text : List Char) : Quotation :=
  let marks := text.takeWhile Text.isAsciiLetter
  let quoted := text.drop marks.length
  let size := match quoted with
    | a :: b :: c :: _ => if a = b && b = c && 6 ≤ quoted.length then 3 else 1
    | _ => 1
  ⟨marks.map Char.toLower, (quoted.drop size).take (quoted.length - 2 * size)⟩

def isBytes (quotation : Quotation) : Bool := quotation.marks.contains 'b'

def isRaw (quotation : Quotation) : Bool := quotation.marks.contains 'r'

def isFormatted (quotation : Quotation) : Bool := quotation.marks.contains 'f'

-- The text with characters beyond ASCII written as escapes, which is what positions count in.
def expand : List Char → List Char
  | [] => []
  | '\\' :: c :: rest =>
      if 128 ≤ c.toNat then "\\u005c".toList ++ wide c ++ expand rest else '\\' :: c :: expand rest
  | c :: rest => if 128 ≤ c.toNat then wide c ++ expand rest else c :: expand rest
where
  wide (_ : Char) : List Char := "\\U00000000".toList

-- The error in the escapes of a text: what it is, and the first and last position. The first argument
-- bounds the number of steps, the second is the position.
def escapeError? : Nat → Nat → List Char → Option (String × Nat × Nat)
  | 0, _, _ | _, _, [] => none
  | count + 1, place, '\\' :: c :: rest =>
      let hex (size : Nat) (message : String) : Option (String × Nat × Nat) :=
        let digits := (rest.take size).takeWhile Text.isHexDigit
        if digits.length < size then some (message, place, place + 1 + digits.length)
        else if size = 8 && 0x10ffff < Text.hexValue digits then
          some ("illegal Unicode character", place, place + 9)
        else escapeError? count (place + 2 + size) (rest.drop size)
      if c = 'x' then hex 2 "truncated \\xXX escape"
      else if c = 'u' then hex 4 "truncated \\uXXXX escape"
      else if c = 'U' then hex 8 "truncated \\UXXXXXXXX escape"
      else if c = 'N' then
        let malformed := "malformed \\N character escape"
        match rest with
        | '\x7b' :: name =>
            let size := (name.takeWhile (· ≠ '\x7d')).length
            if size = name.length then some (malformed, place, place + 2 + size)
            else if size = 0 then some (malformed, place, place + 2)
            else if !Text.isCharacterName (name.take size) then
              some ("unknown Unicode character name", place, place + 3 + size)
            else escapeError? count (place + 4 + size) (name.drop (size + 1))
        | _ => some (malformed, place, place + 1)
      else escapeError? count (place + 2) rest
  | count + 1, place, _ :: rest => escapeError? count (place + 1) rest

def escapeMessage? (body : List Char) : Option String :=
  let text := expand body
  (escapeError? (text.length + 1) 0 text).map fun (message, first, last) =>
    "(unicode error) 'unicodeescape' codec can't decode bytes in position " ++ toString first ++ "-"
      ++ toString last ++ ": " ++ message

def byteEscapeError? : Nat → List Char → Option Nat
  | _, [] => none
  | place, '\\' :: 'x' :: rest =>
      match rest with
      | c :: d :: more =>
          if Text.isHexDigit c && Text.isHexDigit d then byteEscapeError? (place + 4) more
          else some (if Text.isHexDigit c then place + 1 else place)
      | c :: _ => some (if Text.isHexDigit c then place + 1 else place)
      | [] => some place
  | place, '\\' :: _ :: rest => byteEscapeError? (place + 2) rest
  | place, _ :: rest => byteEscapeError? (place + 1) rest

def message? (quotation : Quotation) : Option String :=
  if quotation.isRaw then none
  else if quotation.isBytes then
    (byteEscapeError? 0 quotation.body).map fun place =>
      "(value error) invalid \\x escape at position " ++ toString place
  else escapeMessage? quotation.body

def literal (raw top : Bool) : Nat → List Char → Except String (List Char × List Char × Bool)
  | 0, text => .ok ([], text, false)
  | _, [] => .ok ([], [], false)
  | count + 1, c :: rest =>
      let brace (c : Char) (taken rest : List Char) : Except String (List Char × List Char × Bool) :=
        if c = '\x7b' || c = '\x7d' then
          if top && rest.head? = some c then .ok (taken ++ [c], rest.drop 1, true)
          else if top && c = '\x7d' then .error "f-string: single '\x7d' is not allowed"
          else .ok (taken, c :: rest, false)
        else (literal raw top count rest).map fun (more, after) => (taken ++ c :: more, after)
      if c = '\\' && !raw then
        match rest with
        | 'N' :: '\x7b' :: name =>
            let size := (name.takeWhile (· ≠ '\x7d')).length + 1
            (literal raw top count (name.drop size)).map fun (more, after) =>
              (('\\' :: 'N' :: '\x7b' :: name.take size) ++ more, after)
        | 'N' :: other :: more =>
            (literal raw top count more).map fun (more, after) =>
              ('\\' :: 'N' :: other :: more, after)
        | d :: more => brace d ['\\'] more
        | [] => .ok (['\\'], [], false)
      else brace c [] rest

def endsExpression (c : Char) (rest : List Char) : Bool :=
  (c = '!' || c = ':' || c = '\x7d' || c = '=')
    && !((c = '!' || c = '=') && rest.head? = some '=')

def closes (opening closing : Char) : Bool :=
  (opening = '(' && closing = ')') || (opening = '[' && closing = ']')
    || (opening = '\x7b' && closing = '\x7d')

-- An expression in a formatted text and what follows it. The quote is that of a text inside the expression,
-- with its size; the brackets are those open in it.
def expression : Nat → Option (Char × Nat) → List Char → List Char →
    Except String (List Char × List Char)
  | 0, _, _, text => .ok ([], text)
  | _ + 1, quote, brackets, [] =>
      if quote.isSome then .error "f-string: unterminated string"
      else
        match brackets with
        | opening :: _ => .error ("f-string: unmatched '" ++ opening.toString ++ "'")
        | [] => .error "f-string: expecting '\x7d'"
  | count + 1, quote, brackets, c :: rest =>
      let on (quote : Option (Char × Nat)) (brackets : List Char) (size : Nat) :
          Except String (List Char × List Char) :=
        (expression count quote brackets ((c :: rest).drop size)).map fun (more, after) =>
          ((c :: rest).take size ++ more, after)
      let tripled := (rest.take 2) = [c, c] && 2 ≤ rest.length
      if c = '\\' then .error "f-string expression part cannot include a backslash"
      else
        match quote with
        | some (mark, size) =>
            if c = mark then
              if size = 3 then if tripled then on none brackets 3 else on quote brackets 1
              else on none brackets 1
            else on quote brackets 1
        | none =>
            if c = '\'' || c = '"' then
              if tripled then on (some (c, 3)) brackets 3 else on (some (c, 1)) brackets 1
            else if c = '(' || c = '[' || c = '\x7b' then
              if Scan.Scanner.maxBrackets ≤ brackets.length then
                .error "f-string: too many nested parenthesis"
              else on none (c :: brackets) 1
            else if c = '#' then .error "f-string expression part cannot include '#'"
            else if brackets.isEmpty && endsExpression c rest then .ok ([], c :: rest)
            else if brackets.isEmpty && (c = '!' || c = '=' || c = '<' || c = '>')
                && rest.head? = some '=' then
              on none brackets 2
            else if c = ')' || c = ']' || c = '\x7d' then
              match brackets with
              | [] => .error ("f-string: unmatched '" ++ c.toString ++ "'")
              | opening :: outer =>
                  if closes opening c then on none outer 1
                  else
                    .error ("f-string: closing parenthesis '" ++ c.toString
                      ++ "' does not match opening parenthesis '" ++ opening.toString ++ "'")
            else on none brackets 1

structure Embedding where
  fault : String → Fault
  read : List Char → List Char → Except Fault Tree

def isSpace (c : Char) : Bool := c = ' ' || c = '\t' || c = '\n' || c = '\x0c'

namespace Embedding

def readNonEmpty (embedding : Embedding) (text rest : List Char) : Except Fault Tree :=
  if text.all isSpace then
    match rest with
    | c :: _ =>
        .error (embedding.fault
          (if c = '!' || c = ':' || c = '=' then
            "f-string: expression required before '" ++ c.toString ++ "'"
          else "f-string: empty expression not allowed"))
    | [] => .error (embedding.fault "f-string: empty expression not allowed")
  else embedding.read text rest

def afterEquals : List Char → List Char
  | '=' :: rest => rest.dropWhile fun c => isSpace c || c = '\r' || c = '\x0b'
  | text => text

def afterConversion : List Char → Except String (List Char)
  | '!' :: c :: rest =>
      if c = 's' || c = 'r' || c = 'a' then .ok rest
      else .error "f-string: invalid conversion character: expected 's', 'r', or 'a'"
  | ['!'] => .error "f-string: expecting '\x7d'"
  | text => .ok text

def trees (embedding : Embedding) (raw : Bool) : Nat → Nat → List Char →
    Except Fault (List Tree × List Char)
  | 0, _, text => .ok ([], text)
  | count + 1, level, text => do
      let lift {α : Type} (result : Except String α) : Except Fault α :=
        result.mapError embedding.fault
      let (plain, rest, again) ← lift (literal raw (level = 0) (text.length + 1) text)
      match if raw then none else escapeMessage? plain with
      | some message => throw (embedding.fault message)
      | none => pure ()
      if again then trees embedding raw count level rest
      else
        match rest with
        | '\x7b' :: inner =>
            if 2 ≤ level then throw (embedding.fault "f-string: expressions nested too deeply")
            let (code, after) ← lift (expression (inner.length + 1) none [] inner)
            let tree ← embedding.readNonEmpty code after
            let missing := embedding.fault "f-string: expecting '\x7d'"
            let after := afterEquals after
            if after.isEmpty then throw missing
            let after ← lift (afterConversion after)
            let (inside, after) ← match after with
              | ':' :: spec =>
                  if spec.isEmpty then throw missing
                  else trees embedding raw count (level + 1) spec
              | _ => pure ([], after)
            match after with
            | '\x7d' :: rest =>
                let (others, rest) ← trees embedding raw count level rest
                pure (tree :: inside ++ others, rest)
            | _ => throw missing
        | _ =>
            if level ≠ 0 && rest.head? ≠ some '\x7d' then
              throw (embedding.fault "f-string: expecting '\x7d'")
            else pure ([], rest)

end Embedding

def lineEnds (text : List Char) : Nat := text.countP (· = '\n')

def isTokenFault (scan : Scan) (fault : Fault) : Bool :=
  match scan.stop with
  | .wrong line error => error.overrides && fault = ⟨line, error.message⟩
  | _ => false

mutual

def readEmbedded : Nat → Nat → List Char → Except Fault Tree
  | 0, line, _ => .error ⟨line, "f-string: expressions nested too deeply"⟩
  | depth + 1, line, text =>
      let scan := Scan.ofText line ('(' :: text ++ [')', '\n'])
      let reader : Reader := { grammar := grammar, scan := scan, strings := readStrings depth }
      match reader.run embeddedRule with
      | .ok tree => .ok tree
      | .error fault =>
          if isTokenFault scan fault then .error fault
          else .error { fault with message := "f-string: " ++ fault.message }

-- Reads texts in quotes that stand one after another; messages point at the line of the last token that was
-- looked at. The depth bounds how often formatted texts stand inside each other.
def readStrings : Nat → Nat → List Token → Except Fault Tree
  | depth, last, tokens => do
      let quotations := tokens.map fun token => (token, ofText token.text.toList)
      let _ ← quotations.foldlM (fun (before : Option Bool) (token, quotation) => do
        if quotation.isBytes && quotation.body.any (128 ≤ ·.toNat) then
          throw ⟨token.line, "bytes can only contain ASCII literal characters"⟩
        match if quotation.isFormatted then none else quotation.message? with
        | some message => throw ⟨last, message⟩
        | none => pure ()
        if before = some !quotation.isBytes then
          throw ⟨last, "cannot mix bytes and nonbytes literals"⟩
        pure (some quotation.isBytes)) none
      let line := (tokens.head?.map (·.line)).getD last
      let formatted ← quotations.flatMapM fun (token, quotation) => do
        if quotation.isFormatted then
          let ends := lineEnds token.text.toList
          let read (code rest : List Char) : Except Fault Tree :=
            match depth with
            | 0 => .error ⟨last, "f-string: expressions nested too deeply"⟩
            | depth + 1 =>
                readEmbedded depth (token.line + ends - lineEnds (code ++ rest)) code
          let embedding : Embedding := ⟨fun message => ⟨last, message⟩, read⟩
          let (trees, _) ← embedding.trees quotation.isRaw (quotation.body.length + 1) 0 quotation.body
          pure trees
        else pure []
      pure (if quotations.any (·.2.isFormatted) then .node .formatted line formatted
        else .node .strings line (tokens.map .leaf))

end

end Quotation

end MarkupLint.Script
