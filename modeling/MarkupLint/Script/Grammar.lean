import MarkupLint.Script.Tree

set_option autoImplicit false

namespace MarkupLint.Script

inductive Place where
  | lastToken
  | firstKept
deriving DecidableEq, Repr

inductive Action where
  | keep
  | make (kind : Kind)
  -- A message, in which `%s` is what the first kept item is called and `%d` its line.
  | fault (place : Place) (message : String)
  | target (use : TargetUse)
  | bareCall
  | missingComma
  | bareGenerator
  | lateArgument
  | strings
  | number
  | realNumber
  | imaginaryNumber
deriving DecidableEq, Repr

inductive Item where
  | token (kind : TokenKind)
  | name
  | softKeyword
  | text (text : String)
  | soft (text : String)
  | rule (index : Nat)
  | kept (item : Item)
  | choice (alternatives : List (Bool × List Item × Action))
  | optional (item : Item)
  | many (item : Item)
  | some (item : Item)
  | separated (separator item : Item)
  | ahead (item : Item)
  | notAhead (item : Item)
  | needed (text : String)
  | cut
deriving Repr

abbrev Alternative := Bool × List Item × Action

structure Rule where
  memo : Bool
  plain : Bool
  alternatives : List Alternative
  continuations : List Alternative
deriving Repr

abbrev Grammar := Array Rule

namespace Grammar

inductive Sign where
  | word (text : String)
  | quoted (text : String)
  | message (text : String)
  | symbol (text : String)
deriving DecidableEq, Repr

def isWordChar (c : Char) : Bool := Text.isAsciiLetter c || Text.isAsciiDigit c || c = '_'

def signs : Nat → List Char → List Sign
  | 0, _ | _, [] => []
  | count + 1, c :: rest =>
      if c = ' ' then signs count rest
      else if c = '\'' then
        .quoted (String.ofList (rest.takeWhile (· ≠ c))) :: signs count ((rest.dropWhile (· ≠ c)).drop 1)
      else if c = '\x60' then
        .message (String.ofList (rest.takeWhile (· ≠ c))) :: signs count ((rest.dropWhile (· ≠ c)).drop 1)
      else if isWordChar c then
        .word (String.ofList ((c :: rest).takeWhile isWordChar))
          :: signs count (rest.dropWhile isWordChar)
      else
        match ["->", "=>", "<<", "&&"].find? (·.toList.isPrefixOf (c :: rest)) with
        | some long => .symbol long :: signs count (rest.drop 1)
        | none => .symbol c.toString :: signs count rest

def kinds : List (String × Kind) :=
  [ ("group", .group), ("program", .program), ("expressionStmt", .expressionStmt),
    ("assignStmt", .assignStmt), ("annotatedStmt", .annotatedStmt),
    ("annotatedPlace", .annotatedPlace), ("augmentedStmt", .augmentedStmt),
    ("returnStmt", .returnStmt), ("raiseStmt", .raiseStmt), ("globalStmt", .globalStmt),
    ("nonlocalStmt", .nonlocalStmt), ("deleteStmt", .deleteStmt), ("assertStmt", .assertStmt),
    ("passStmt", .passStmt), ("breakStmt", .breakStmt), ("continueStmt", .continueStmt),
    ("importStmt", .importStmt), ("importFrom", .importFrom), ("importRelative", .importRelative),
    ("importName", .importName), ("dotted", .dotted), ("decorated", .decorated),
    ("classDef", .classDef), ("functionDef", .functionDef),
    ("asyncFunctionDef", .asyncFunctionDef), ("parameters", .parameters),
    ("parameter", .parameter), ("defaulted", .defaulted), ("ifStmt", .ifStmt),
    ("whileStmt", .whileStmt), ("forStmt", .forStmt), ("asyncForStmt", .asyncForStmt),
    ("withStmt", .withStmt), ("asyncWithStmt", .asyncWithStmt), ("withItem", .withItem),
    ("tryStmt", .tryStmt), ("tryStarStmt", .tryStarStmt), ("handler", .handler),
    ("matchStmt", .matchStmt), ("matchCase", .matchCase), ("capturePattern", .capturePattern),
    ("wildcardPattern", .wildcardPattern), ("valuePattern", .valuePattern),
    ("orPattern", .orPattern), ("asPattern", .asPattern), ("sequencePattern", .sequencePattern),
    ("starPattern", .starPattern), ("mappingPattern", .mappingPattern),
    ("mappingItem", .mappingItem), ("mappingRest", .mappingRest), ("classPattern", .classPattern),
    ("keywordPattern", .keywordPattern), ("tuple", .tuple), ("listDisplay", .listDisplay),
    ("setDisplay", .setDisplay), ("dictDisplay", .dictDisplay), ("pair", .pair),
    ("dictUnpacking", .dictUnpacking), ("listComp", .listComp), ("setComp", .setComp),
    ("dictComp", .dictComp), ("generator", .generator), ("clause", .clause),
    ("asyncClause", .asyncClause), ("call", .call), ("arguments", .arguments),
    ("keyword", .keyword), ("doubleStarred", .doubleStarred), ("starred", .starred),
    ("attribute", .attribute), ("subscript", .subscript), ("slice", .slice), ("boolOp", .boolOp),
    ("inversion", .inversion), ("unary", .unary), ("binary", .binary), ("compare", .compare),
    ("comparePart", .comparePart), ("inPart", .inPart), ("isPart", .isPart),
    ("isNotPart", .isNotPart), ("awaitExpr", .awaitExpr), ("yieldExpr", .yieldExpr),
    ("yieldFrom", .yieldFrom), ("lambdaExpr", .lambdaExpr), ("conditional", .conditional),
    ("namedExpr", .namedExpr) ]

def tokenItems : List (String × Item) :=
  [ ("NAME", .name), ("NUMBER", .token .number), ("STRING", .token .string),
    ("NEWLINE", .token .newline), ("INDENT", .token .indent), ("DEDENT", .token .dedent),
    ("END", .token .finish), ("SOFT", .softKeyword), ("LBRACE", .text "\x7b"),
    ("RBRACE", .text "\x7d") ]

def actions : List (String × Action) :=
  [ ("assign", .target .assign), ("loop", .target .loop), ("delete", .target .delete),
    ("call", .bareCall), ("comma", .missingComma), ("generator", .bareGenerator),
    ("argument", .lateArgument), ("strings", .strings), ("number", .number), ("real", .realNumber),
    ("imaginary", .imaginaryNumber) ]

def readAction : List Sign → Option (Action × List Sign)
  | .symbol "->" :: .word kind :: rest => (kinds.lookup kind).map fun kind => (.make kind, rest)
  | .symbol "=>" :: .word place :: .message text :: rest =>
      some (.fault (if place = "last" then .lastToken else .firstKept) text, rest)
  | .symbol "=>" :: .word action :: rest => (actions.lookup action).map fun action => (action, rest)
  | rest => some (.keep, rest)

-- Rules whose names begin so only explain why a text is wrong.
def explains (name : String) : Bool := "invalid_".toList.isPrefixOf name.toList

def onlyExplains (names : List String) : List Item → Bool
  | [.rule index] => ((names[index]?).map explains).getD false
  | _ => false

def readWord (names : List String) (word : String) : Option Item :=
  match tokenItems.lookup word with
  | some item => some item
  | none => if names.contains word then some (.rule (names.idxOf word)) else none

mutual

def readChoice (names : List String) : Nat → List Sign → Option (List Alternative × List Sign)
  | 0, _ => none
  | fuel + 1, text => do
      let (first, rest) ← readAlternative names fuel text
      match rest with
      | .symbol "|" :: rest =>
          let (others, rest) ← readChoice names fuel rest
          pure (first :: others, rest)
      | _ => pure ([first], rest)

def readAlternative (names : List String) : Nat → List Sign → Option (Alternative × List Sign)
  | 0, _ => none
  | fuel + 1, text => do
      let (items, rest) ← readItems names fuel text
      let (action, rest) ← readAction rest
      pure ((onlyExplains names items, items, action), rest)

def readItems (names : List String) : Nat → List Sign → Option (List Item × List Sign)
  | 0, _ => none
  | fuel + 1, text =>
      match text with
      | [] => some ([], [])
      | .symbol mark :: _ =>
          if ["|", ")", "]", "->", "=>", "<<"].contains mark then some ([], text)
          else readMore names fuel text
      | _ => readMore names fuel text

def readMore (names : List String) : Nat → List Sign → Option (List Item × List Sign)
  | 0, _ => none
  | fuel + 1, text => do
      let (item, rest) ← readItem names fuel text
      let (others, rest) ← readItems names fuel rest
      pure (item :: others, rest)

def readItem (names : List String) : Nat → List Sign → Option (Item × List Sign)
  | 0, _ => none
  | fuel + 1, text =>
      match text with
      | .word _ :: .symbol "=" :: rest => do
          let (item, rest) ← readItem names fuel rest
          pure (.kept item, rest)
      | .symbol "&&" :: .quoted text :: rest => some (.needed text, rest)
      | .symbol "&" :: rest => do
          let (item, rest) ← readAtom names fuel rest
          pure (.ahead item, rest)
      | .symbol "!" :: rest => do
          let (item, rest) ← readAtom names fuel rest
          pure (.notAhead item, rest)
      | .symbol "~" :: rest => some (.cut, rest)
      | _ => do
          let (item, rest) ← readAtom names fuel text
          match rest with
          | .symbol "?" :: rest => pure (.optional item, rest)
          | .symbol "*" :: rest => pure (.many item, rest)
          | .symbol "+" :: rest => pure (.some item, rest)
          | .symbol "." :: rest =>
              match ← readAtom names fuel rest with
              | (repeated, .symbol "+" :: rest) => pure (.separated item repeated, rest)
              | _ => none
          | _ => pure (item, rest)

def readAtom (names : List String) : Nat → List Sign → Option (Item × List Sign)
  | 0, _ => none
  | fuel + 1, text =>
      match text with
      | .quoted text :: rest => some (.text text, rest)
      | .symbol "%" :: .word text :: rest => some (.soft text, rest)
      | .word word :: rest => (readWord names word).map fun item => (item, rest)
      | .symbol "(" :: rest => do
          match ← readChoice names fuel rest with
          | (alternatives, .symbol ")" :: rest) => pure (.choice alternatives, rest)
          | _ => none
      | .symbol "[" :: rest => do
          match ← readChoice names fuel rest with
          | (alternatives, .symbol "]" :: rest) => pure (.optional (.choice alternatives), rest)
          | _ => none
      | _ => none

end

def readContinuations (names : List String) (fuel : Nat) : Nat → List Sign → Option (List Alternative)
  | 0, _ => none
  | _, [] => some []
  | count + 1, .symbol "<<" :: rest => do
      let (alternative, rest) ← readAlternative names fuel rest
      let others ← readContinuations names fuel count rest
      pure (alternative :: others)
  | _, _ => none

def readRule (names : List String) (header body : String) : Option Rule := do
  let text := signs body.length body.toList
  let fuel := 4 * text.length + 8
  let (alternatives, rest) ← readChoice names fuel text
  let continuations ← readContinuations names fuel fuel rest
  let words := header.splitOn " "
  pure ⟨words.contains "memo", words.contains "plain", alternatives, continuations⟩

def nameOf (header : String) : String := ((header.splitOn " ").head?).getD ""

def ofTexts (texts : List (String × String)) : Option Grammar :=
  let names := texts.map fun (header, _) => nameOf header
  (texts.mapM fun (header, body) => readRule names header body).map List.toArray

end Grammar

end MarkupLint.Script
