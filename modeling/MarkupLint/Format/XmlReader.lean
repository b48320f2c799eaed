import MarkupLint.Format.Xml

set_option autoImplicit false

namespace MarkupLint.Xml

inductive Entity where
  | text (value : List Char)
  | external
  | binary
deriving DecidableEq, Repr

structure Declared where
  element : List Char
  name : List Char
  isPlain : Bool
  value : Option (List Char)
deriving DecidableEq, Repr

structure DocumentType where
  entities : List (List Char × Entity) := []
  attributes : List Declared := []
  isOpen : Bool := false
  standsAlone : Bool := false
  -- Whether declarations still count: those after a reference that is not followed do not.
  counts : Bool := true
  element : List Char := []
  ownName : List Char := []
  isPlain : Bool := false
  isIdentity : Bool := false

inductive Stage where
  | start
  | beforeType
  | afterType
  | typeName
  | typeSource
  | typePublicId
  | typeSystemId
  | typeSubset
  | typeEnd
  | subset
  | entityName
  | entityValue (name : List Char)
  | entityPublicId (name : List Char)
  | entitySystemId (name : List Char)
  | entityData (name : List Char)
  | entityNotation (name : List Char)
  | parameterName
  | parameterValue
  | parameterPublicId
  | parameterSystemId
  | notationName
  | notationSource
  | notationPublicId
  | notationSystemId
  | notationEnd
  | attributeElement
  | attributeName
  | attributeType
  | choiceFirst
  | choiceMore
  | notationOpen
  | notationFirst
  | notationMore
  | attributeDefault
  | attributeFixed
  | elementName
  | elementModel
  | modelFirst
  | mixedMore
  | mixedName
  | mixedEnd
  | childFirst (depth : Nat)
  | childMore (depth : Nat)
  | declarationEnd
deriving DecidableEq, Repr

namespace Stage

def attributeTypes : List String :=
  ["CDATA", "ID", "IDREF", "IDREFS", "ENTITY", "ENTITIES", "NMTOKEN", "NMTOKENS"]

def source (word : List Char) (forPublic forSystem : Stage) : Option Stage :=
  if word = "PUBLIC".toList then some forPublic
  else if word = "SYSTEM".toList then some forSystem
  else none

def ofKeyword (keyword : List Char) : Option Stage :=
  if keyword = "ENTITY".toList then some .entityName
  else if keyword = "ATTLIST".toList then some .attributeElement
  else if keyword = "ELEMENT".toList then some .elementName
  else if keyword = "NOTATION".toList then some .notationName
  else none

def next (stage : Stage) (token : PrologToken) : Option Stage :=
  match stage, token with
  | .start, .space => some .beforeType
  | .start, .declaration _ => some .beforeType
  | .start, .instruction | .start, .comment => some .beforeType
  | .beforeType, .instruction | .beforeType, .comment => some .beforeType
  | .afterType, .instruction | .afterType, .comment => some .afterType
  | .subset, .instruction | .subset, .comment => some .subset
  | stage, .space => some stage
  | .start, .declarationOpen keyword | .beforeType, .declarationOpen keyword =>
      if keyword = "DOCTYPE".toList then some .typeName else none
  | .typeName, .name _ | .typeName, .scopedName _ => some .typeSource
  | .typeSource, .openBracket => some .subset
  | .typeSource, .close => some .afterType
  | .typeSource, .name word => source word .typePublicId .typeSystemId
  | .typePublicId, .literal _ => some .typeSystemId
  | .typeSystemId, .literal _ => some .typeSubset
  | .typeSubset, .openBracket => some .subset
  | .typeSubset, .close => some .afterType
  | .typeEnd, .close => some .afterType
  | .subset, .declarationOpen keyword => ofKeyword keyword
  | .subset, .parameterEntity => some .subset
  | .subset, .closeBracket => some .typeEnd
  | .entityName, .percent => some .parameterName
  | .entityName, .name name => some (.entityValue name)
  | .entityValue name, .name word => source word (.entityPublicId name) (.entitySystemId name)
  | .entityValue _, .literal _ => some .declarationEnd
  | .entityPublicId name, .literal _ => some (.entitySystemId name)
  | .entitySystemId name, .literal _ => some (.entityData name)
  | .entityData _, .close => some .subset
  | .entityData name, .name word =>
      if word = "NDATA".toList then some (.entityNotation name) else none
  | .entityNotation _, .name _ => some .declarationEnd
  | .parameterName, .name _ => some .parameterValue
  | .parameterValue, .name word => source word .parameterPublicId .parameterSystemId
  | .parameterValue, .literal _ => some .declarationEnd
  | .parameterPublicId, .literal _ => some .parameterSystemId
  | .parameterSystemId, .literal _ => some .declarationEnd
  | .notationName, .name _ => some .notationSource
  | .notationSource, .name word => source word .notationPublicId .notationSystemId
  | .notationPublicId, .literal _ => some .notationEnd
  | .notationSystemId, .literal _ => some .declarationEnd
  | .notationEnd, .literal _ => some .declarationEnd
  | .notationEnd, .close => some .subset
  | .attributeElement, .name _ | .attributeElement, .scopedName _ => some .attributeName
  | .attributeName, .close => some .subset
  | .attributeName, .name _ | .attributeName, .scopedName _ => some .attributeType
  | .attributeType, .name word =>
      if attributeTypes.contains (String.ofList word) then some .attributeDefault
      else if word = "NOTATION".toList then some .notationOpen
      else none
  | .attributeType, .openParen => some .choiceFirst
  | .choiceFirst, .name _ | .choiceFirst, .scopedName _ | .choiceFirst, .nameToken => some .choiceMore
  | .choiceMore, .closeParen none => some .attributeDefault
  | .choiceMore, .bar => some .choiceFirst
  | .notationOpen, .openParen => some .notationFirst
  | .notationFirst, .name _ => some .notationMore
  | .notationMore, .closeParen none => some .attributeDefault
  | .notationMore, .bar => some .notationFirst
  | .attributeDefault, .pound word =>
      if word = "IMPLIED".toList || word = "REQUIRED".toList then some .attributeName
      else if word = "FIXED".toList then some .attributeFixed
      else none
  | .attributeDefault, .literal _ => some .attributeName
  | .attributeFixed, .literal _ => some .attributeName
  | .elementName, .name _ | .elementName, .scopedName _ => some .elementModel
  | .elementModel, .name word =>
      if word = "EMPTY".toList || word = "ANY".toList then some .declarationEnd else none
  | .elementModel, .openParen => some .modelFirst
  | .modelFirst, .pound word => if word = "PCDATA".toList then some .mixedMore else none
  | .modelFirst, .openParen => some (.childFirst 2)
  | .modelFirst, .name _ | .modelFirst, .scopedName _ | .modelFirst, .markedName => some (.childMore 1)
  | .mixedMore, .closeParen none | .mixedMore, .closeParen (some '*') => some .declarationEnd
  | .mixedMore, .bar => some .mixedName
  | .mixedName, .name _ | .mixedName, .scopedName _ => some .mixedEnd
  | .mixedEnd, .closeParen (some '*') => some .declarationEnd
  | .mixedEnd, .bar => some .mixedName
  | .childFirst depth, .openParen => some (.childFirst (depth + 1))
  | .childFirst depth, .name _ | .childFirst depth, .scopedName _ | .childFirst depth, .markedName =>
      some (.childMore depth)
  | .childMore depth, .closeParen _ =>
      some (if depth ≤ 1 then .declarationEnd else .childMore (depth - 1))
  | .childMore depth, .comma | .childMore depth, .bar => some (.childFirst depth)
  | .declarationEnd, .close => some .subset
  | _, _ => none

def isOutside (stage : Stage) : Bool := stage = .start || stage = .beforeType || stage = .afterType

end Stage

-- Something wrong in a text that stands for another: where so many of its characters are left, or at the
-- place of what is being read.
structure TextFault where
  cause : Cause
  left : Option Nat

namespace TextFault

-- The fault in the document: the text is followed by so many characters, and what is being read begins
-- where `start` are left.
def fault (start after : Nat) (wrong : TextFault) : Fault :=
  ⟨wrong.cause, (wrong.left.map (· + after)).getD start⟩

def ofTrouble (start : Nat) : Trouble → TextFault
  | .cutOff => ⟨.wrongToken, some start⟩
  | .wrong left => ⟨.wrongToken, some left⟩

end TextFault

-- The text that an entity is declared with: references to characters are replaced, those to entities stay.
-- The first argument bounds the number of steps.
def entityText : Nat → List Char → Except TextFault (List Char)
  | 0, _ | _, [] => .ok []
  | fuel + 1, c :: rest =>
      if c = '&' then
        match readReference rest with
        | .error trouble => .error (.ofTrouble (rest.length + 1) trouble)
        | .ok (.character none, _) => .error ⟨.badCharacterNumber, some (rest.length + 1)⟩
        | .ok (.character (some c), after) => (entityText fuel after).map fun more => c :: more
        | .ok (.entity name, after) =>
            (entityText fuel after).map fun more => '&' :: name ++ ';' :: more
      else if c = '%' then
        match readName rest with
        | .error trouble =>
            .error (.ofTrouble (rest.length + 1) trouble)
        | .ok (_, ';' :: _) => .error ⟨.parameterEntity, some (rest.length + 1)⟩
        | .ok (_, []) => .error ⟨.wrongToken, some (rest.length + 1)⟩
        | .ok (_, after) => .error ⟨.wrongToken, some after.length⟩
      else if c = '\r' then
        (entityText fuel (if rest.head? = some '\n' then rest.drop 1 else rest)).map fun more =>
          '\n' :: more
      else (entityText fuel rest).map fun more => c :: more

def standardEntities : List (List Char × Char) :=
  [ ("amp".toList, '&'), ("lt".toList, '<'), ("gt".toList, '>'), ("apos".toList, '\''),
    ("quot".toList, '"') ]

namespace DocumentType

def isChecked (type : DocumentType) : Bool := type.standsAlone || !type.isOpen

-- Adds a space to a value that is written backwards; a value that is not plain has no space at its
-- beginning and no two in a row.
def addSpace (isPlain : Bool) (value : List Char) : List Char :=
  if !isPlain && (value.isEmpty || value.head? = some ' ') then value else ' ' :: value

def addText (type : DocumentType) (isPlain : Bool) :
    Nat → List (List Char) → List Char → List Char → Except TextFault (List Char)
  | 0, _, value, _ | _, _, value, [] => .ok value
  | fuel + 1, within, value, c :: rest =>
      let start := rest.length + 1
      if c = '&' then
        match readReference rest with
        | .error trouble => .error (.ofTrouble start trouble)
        | .ok (.character none, _) => .error ⟨.badCharacterNumber, some start⟩
        | .ok (.character (some c), after) =>
            addText type isPlain fuel within
              (if c = ' ' then addSpace isPlain value else c :: value) after
        | .ok (.entity name, after) =>
            match standardEntities.lookup name with
            | some c => addText type isPlain fuel within (c :: value) after
            | none =>
                match type.entities.lookup name with
                | none =>
                    if type.isChecked then .error ⟨.undefinedEntity, none⟩
                    else addText type isPlain fuel within value after
                | some entity =>
                    -- An entity that the text is within already is not followed.
                    if within.contains name then .error ⟨.recursiveEntity, none⟩
                    else
                      match entity with
                      | .binary => .error ⟨.binaryEntity, some start⟩
                      | .external => .error ⟨.externalEntityInAttribute, some start⟩
                      | .text text =>
                          match addText type isPlain fuel (name :: within) value text with
                          | .error wrong => .error { wrong with left := none }
                          | .ok value => addText type isPlain fuel within value after
      else if c = '<' then .error ⟨.wrongToken, some start⟩
      else if isSpace c then
        let rest := if c = '\r' && rest.head? = some '\n' then rest.drop 1 else rest
        addText type isPlain fuel within (addSpace isPlain value) rest
      else addText type isPlain fuel within (c :: value) rest

-- A bound for the steps of following references: every entity is passed at most once at a time.
def steps (type : DocumentType) (text : List Char) : Nat :=
  text.length + 2 + (type.entities.map fun (_, entity) => match entity with
    | .text value => value.length + 2
    | _ => 2).foldl Nat.add 0

def value (type : DocumentType) (isPlain : Bool) (within : List (List Char)) (text : List Char) :
    Except TextFault (List Char) :=
  (addText type isPlain (type.steps text) within [] text).map fun value =>
    (if !isPlain && value.head? = some ' ' then value.drop 1 else value).reverse

def declare (name : List Char) (entity : Entity) (type : DocumentType) : DocumentType :=
  if type.counts && (standardEntities.lookup name).isNone then
    { type with entities := type.entities ++ [(name, entity)] }
  else type

-- Declares an attribute; the first declaration counts, unless it gives no value and a later one neither
-- gives one nor makes the attribute identify its element.
def declareAttribute (value : Option (List Char)) (type : DocumentType) : DocumentType :=
  let known := type.attributes.any fun other =>
    other.element = type.element && other.name = type.ownName
  if !type.counts || (known && (value.isSome || type.isIdentity)) then type
  else
    { type with
      attributes := type.attributes ++ [⟨type.element, type.ownName, type.isPlain, value⟩] }

def isPublicIdChar (c : Char) : Bool :=
  Text.isAsciiLetter c || Text.isAsciiDigit c || " \r\n-'()+,/=?;!*%#:._$@".toList.contains c

def checkPublicId (after : Nat) (text : List Char) : Except Fault PUnit :=
  match text.dropWhile isPublicIdChar with
  | [] => .ok ()
  | wrong => .error ⟨.badPublicId, wrong.length + after⟩

def note (type : DocumentType) (stage : Stage) (token : PrologToken) (start stop : Nat) :
    Except Fault DocumentType :=
  match stage, token with
  | .entityValue name, .literal text => do
      if !type.counts then pure type
      else
        let value ← (entityText (text.length + 1) text).mapError (TextFault.fault start (stop + 1))
        pure (type.declare name (.text value))
  | .parameterValue, .literal text => do
      if !type.counts then pure type
      else
        let _ ← (entityText (text.length + 1) text).mapError (TextFault.fault start (stop + 1))
        pure type
  | .entitySystemId name, .literal _ => .ok (type.declare name .external)
  | .entityNotation name, .name _ =>
      .ok (if type.counts then
        { type with entities := type.entities.map fun (other, entity) =>
            (other, if other = name && entity = .external then .binary else entity) }
        else type)
  | .typePublicId, .literal text => do
      checkPublicId (stop + 1) text
      pure { type with isOpen := true }
  | .entityPublicId _, .literal text => do
      checkPublicId (stop + 1) text
      pure type
  | .parameterPublicId, .literal text => do
      checkPublicId (stop + 1) text
      pure type
  | .notationPublicId, .literal text => do
      checkPublicId (stop + 1) text
      pure type
  | .typeSystemId, .literal _ => .ok { type with isOpen := true }
  | .subset, .parameterEntity => .ok { type with isOpen := true, counts := type.standsAlone }
  | .attributeElement, .name name => .ok { type with element := name }
  | .attributeElement, .scopedName name => .ok { type with element := name }
  | .attributeName, .name name => .ok { type with ownName := name, isPlain := false, isIdentity := false }
  | .attributeName, .scopedName name =>
      .ok { type with ownName := name, isPlain := false, isIdentity := false }
  | .attributeType, .name word =>
      .ok { type with isPlain := word = "CDATA".toList, isIdentity := word = "ID".toList }
  | .attributeDefault, .pound word =>
      .ok (if word = "FIXED".toList then type else type.declareAttribute none)
  | .attributeDefault, .literal text => noteDefault text
  | .attributeFixed, .literal text => noteDefault text
  | _, _ => .ok type
where
  noteDefault (text : List Char) : Except Fault DocumentType := do
    if !type.counts then pure type
    else
      let value ← (type.value type.isPlain [] text).mapError (TextFault.fault start (stop + 1))
      pure ({ type with isIdentity := false }.declareAttribute (some value))

end DocumentType

structure Setting where
  name : List Char
  nameLeft : Nat
  value : List Char
  valueLeft : Nat

def isSettingChar (c : Char) : Bool :=
  Text.isAsciiLetter c || Text.isAsciiDigit c || c = '.' || c = '-' || c = '_'

def readSetting (text : List Char) : Except Nat (Option (Setting × List Char)) :=
  match text with
  | [] => .ok none
  | c :: _ =>
      if !isSpace c then .error text.length
      else
        let start := text.dropWhile isSpace
        if start.isEmpty then .ok none
        else
          let isName (c : Char) : Bool := c ≠ '=' && !isSpace c && c.toNat < 128
          let name := start.takeWhile isName
          let rest := (start.dropWhile isName).dropWhile isSpace
          match name, rest with
          | [], _ => .error rest.length
          | _, '=' :: rest =>
              match rest.dropWhile isSpace with
              | quote :: body =>
                  if quote = '"' || quote = '\'' then
                    let value := body.takeWhile isSettingChar
                    match body.drop value.length with
                    | c :: after =>
                        if c = quote then
                          .ok (some (⟨name, start.length, value, body.length⟩, after))
                        else .error (after.length + 1)
                    | [] => .error 0
                  else .error (body.length + 1)
              | [] => .error 0
          | _, rest => .error rest.length

def checkStandalone (setting : Setting) (rest : List Char) : Except Nat Bool :=
  if setting.name ≠ "standalone".toList then .error setting.nameLeft
  else if setting.value ≠ "yes".toList && setting.value ≠ "no".toList then .error setting.valueLeft
  else
    match rest.dropWhile isSpace with
    | [] => .ok (setting.value = "yes".toList)
    | left => .error left.length

def checkDeclaration (text : List Char) : Except Nat Bool := do
  match ← readSetting text with
  | none => throw text.length
  | some (version, rest) =>
      if version.name ≠ "version".toList then throw version.nameLeft
      match ← readSetting rest with
      | none => pure false
      | some (second, rest) =>
          if second.name = "encoding".toList then
            if !((second.value.head?.map Text.isAsciiLetter).getD false) then throw second.valueLeft
            match ← readSetting rest with
            | none => pure false
            | some (third, rest) => checkStandalone third rest
          else checkStandalone second rest

def readProlog : Nat → Stage → DocumentType → List Char → Except Fault (DocumentType × List Char)
  | 0, _, type, text => .ok (type, text)
  | fuel + 1, stage, type, text =>
      let left := text.length
      if text.isEmpty then .error ⟨.noElement, 0⟩
      else
        match readPrologToken text with
        | .error trouble => .error (trouble.fault left)
        | .ok (token, rest) =>
            if token = .element && stage.isOutside then .ok (type, rest)
            else
              match stage.next token with
              | none =>
                  .error ⟨match token with
                    | .parameterEntity => .parameterEntity
                    | .declaration _ => .misplacedDeclaration
                    | _ => .misplacedToken, left⟩
              | some next =>
                  match token with
                  | .declaration body =>
                      match checkDeclaration body with
                      | .error bad => .error ⟨.badDeclaration, bad + 2 + rest.length⟩
                      | .ok alone => readProlog fuel next { type with standsAlone := alone } rest
                  | _ =>
                      match type.note stage token left rest.length with
                      | .error fault => .error fault
                      | .ok type => readProlog fuel next type rest

-- The addresses that scopes are bound to, innermost first. The scope without a name is that of names
-- without one.
abbrev Bindings := List (List Char × List Char)

structure Opened where
  name : List Char
  bindings : Bindings

def xmlAddress : List Char := "http://www.w3.org/XML/1998/namespace".toList

def scopeAddress : List Char := "http://www.w3.org/2000/xmlns/".toList

def outermost : Bindings := [("xml".toList, xmlAddress)]

def addressEnd : Char := '\x7d'

def bind (scope address : List Char) (bindings : Bindings) : Except Cause Bindings :=
  let isXml := scope = "xml".toList
  if address.isEmpty && !scope.isEmpty then .error .emptyScope
  else if scope = "xmlns".toList then .error .reservedScope
  else if address.contains addressEnd then .error .misplacedToken
  else if isXml && address ≠ xmlAddress then .error .reservedXmlScope
  else if !isXml && address = xmlAddress then .error .reservedAddress
  else if !isXml && address = scopeAddress then .error .reservedAddress
  else .ok ((scope, address) :: bindings)

def ScopedName.ofText (text : List Char) : ScopedName :=
  match text.dropWhile (· ≠ ':') with
  | ':' :: name => ⟨text.takeWhile (· ≠ ':'), name⟩
  | _ => ⟨[], text⟩

def boundScope? (name : ScopedName) : Option (List Char) :=
  if name.scope = "xmlns".toList then some name.name
  else if name.scope.isEmpty && name.name = "xmlns".toList then some []
  else none

def takeAttributes (type : DocumentType) (within : List (List Char)) (element : List Char) (left : Nat) :
    List ScopedName → Bindings → List Attribute → Except Fault (List ScopedName × Bindings)
  | names, bindings, [] => .ok (names, bindings)
  | names, bindings, given :: rest => do
      if names.contains given.name then throw ⟨.duplicateAttribute, given.left⟩
      let isPlain := ((type.attributes.find? fun declared =>
        declared.element = element && declared.name = given.name.text).map (·.isPlain)).getD true
      let value ← (type.value isPlain within given.value).mapError (TextFault.fault left given.after)
      let bindings ← match boundScope? given.name with
        | some scope => (bind scope value bindings).mapError (Fault.mk · left)
        | none => pure bindings
      takeAttributes type within element left (names ++ [given.name]) bindings rest

def addDeclared (left : Nat) : List ScopedName → Bindings → List Declared →
    Except Fault (List ScopedName × Bindings)
  | names, bindings, [] => .ok (names, bindings)
  | names, bindings, declared :: rest => do
      let name := ScopedName.ofText declared.name
      match if names.contains name then none else declared.value with
      | none => addDeclared left names bindings rest
      | some value =>
          let bindings ← match boundScope? name with
            | some scope => (bind scope value bindings).mapError (Fault.mk · left)
            | none => pure bindings
          addDeclared left (names ++ [name]) bindings rest

def checkNames (left : Nat) (bindings : Bindings) : List (List Char × List Char) → List ScopedName →
    Except Fault PUnit
  | _, [] => .ok ()
  | before, name :: rest => do
      match bindings.lookup name.scope with
      | none => throw ⟨.unboundScope, left⟩
      | some address =>
          if before.contains (address, name.name) then throw ⟨.duplicateAttribute, left⟩
          checkNames left bindings ((address, name.name) :: before) rest

def openElement (type : DocumentType) (within : List (List Char)) (bindings : Bindings) (left : Nat)
    (name : ScopedName) (attributes : List Attribute) : Except Fault Bindings := do
  let (names, bindings) ← takeAttributes type within name.text left [] bindings attributes
  let (names, bindings) ← addDeclared left names bindings
    (type.attributes.filter (·.element = name.text))
  checkNames left bindings [] (names.filter fun name =>
    !name.scope.isEmpty && (boundScope? name).isNone)
  if !name.scope.isEmpty && (bindings.lookup name.scope).isNone then throw ⟨.unboundScope, left⟩
  pure bindings

def readData : List Char → Except Fault (List Char)
  | ']' :: ']' :: '>' :: rest => .ok rest
  | [']', ']'] => .error ⟨.openCharacterData, 2⟩
  | [']'] => .error ⟨.openCharacterData, 1⟩
  | c :: rest => if isAllowed c then readData rest else .error ⟨.wrongToken, rest.length + 1⟩
  | [] => .error ⟨.openCharacterData, 0⟩

structure Surroundings where
  type : DocumentType
  bindings : Bindings := outermost
  within : List (List Char) := []

def Surroundings.inForce (around : Surroundings) (opened : List Opened) : Bindings :=
  (opened.head?.map (·.bindings)).getD around.bindings

def readPiece (around : Surroundings) (follow : Bindings → List Char → Except Cause PUnit)
    (opened : List Opened) (text : List Char) : Except Fault (List Opened × List Char) :=
  let left := text.length
  let settled {α : Type} (result : Except Trouble α) : Except Fault α :=
    result.mapError (Trouble.fault left)
  match text with
  | [] => .error ⟨.noElement, 0⟩
  | '<' :: '/' :: rest => do
      let (name, rest) ← settled (readEndTag rest)
      match opened with
      | [] => throw ⟨.unbalancedEntity, left⟩
      | element :: outer =>
          if element.name = name then pure (outer, rest) else throw ⟨.mismatchedTag, left - 2⟩
  | '<' :: '!' :: '-' :: rest => do
      let rest ← settled (readComment rest)
      pure (opened, rest)
  | '<' :: '!' :: '[' :: rest => do
      let rest ← settled (readDataOpening rest)
      let rest ← readData rest
      pure (opened, rest)
  | '<' :: '!' :: rest => settled (wrongAt rest)
  | '<' :: '?' :: rest => do
      let ((target, _), rest) ← settled (readInstruction rest)
      if target = ['x', 'm', 'l'] then throw ⟨.misplacedDeclaration, left⟩
      pure (opened, rest)
  | '<' :: rest => do
      let ((name, attributes, isEmpty), rest) ← settled (readStartTag rest)
      let bindings ← openElement around.type around.within (around.inForce opened) left name attributes
      pure (if isEmpty then opened else ⟨name.text, bindings⟩ :: opened, rest)
  | '&' :: rest => do
      let (reference, rest) ← settled (readReference rest)
      match reference with
      | .character c => if c.isSome then pure (opened, rest) else throw ⟨.badCharacterNumber, left⟩
      | .entity name =>
          match follow (around.inForce opened) name with
          | .ok _ => pure (opened, rest)
          | .error cause => throw ⟨cause, left⟩
  | ']' :: ']' :: '>' :: rest => .error ⟨.wrongToken, rest.length + 1⟩
  | c :: rest => if isAllowed c then .ok (opened, rest) else .error ⟨.wrongToken, left⟩

mutual

def readEntityText (around : Surroundings) : Nat → List Opened → List Char → Except Cause PUnit
  | 0, _, _ => .ok ()
  | _ + 1, opened, [] => if opened.isEmpty then .ok () else .error .unbalancedEntity
  | fuel + 1, opened, c :: text =>
      match readPiece around (followEntity around.type around.within fuel) opened (c :: text) with
      | .error fault => .error fault.cause
      | .ok (opened, rest) => readEntityText around fuel opened rest

def followEntity (type : DocumentType) (within : List (List Char)) :
    Nat → Bindings → List Char → Except Cause PUnit
  | 0, _, _ => .ok ()
  | fuel + 1, bindings, name =>
      if (standardEntities.lookup name).isSome then .ok ()
      else
        match type.entities.lookup name with
        | none =>
            if type.isChecked then .error .undefinedEntity
            else .error (.unknownEntity (String.ofList name))
        | some entity =>
            if within.contains name then .error .recursiveEntity
            else
              match entity with
              | .text value => readEntityText ⟨type, bindings, name :: within⟩ fuel [] value
              | .binary => .error .binaryEntity
              | .external => .error (.unknownEntity (String.ofList name))

end

def readContent (around : Surroundings) (follow : Bindings → List Char → Except Cause PUnit) :
    Nat → List Opened → List Char → Except Fault (List Char)
  | 0, _, text => .ok text
  | _ + 1, _, ['\r'] => .error ⟨.noElement, 1⟩
  | fuel + 1, opened, text =>
      match readPiece around follow opened text with
      | .error fault => .error fault
      | .ok ([], rest) => .ok rest
      | .ok (opened, rest) => readContent around follow fuel opened rest

def readEpilog : Nat → List Char → Except Fault PUnit
  | 0, _ | _, [] => .ok ()
  | fuel + 1, text =>
      match readPrologToken text with
      | .error trouble => .error (trouble.fault text.length)
      | .ok (.space, rest) | .ok (.instruction, rest) | .ok (.comment, rest) => readEpilog fuel rest
      | .ok _ => .error ⟨.contentAfterEnd, text.length⟩

def withoutByteOrderMark : List Char → List Char
  | '\ufeff' :: rest => rest
  | text => text

def fault? (text : List Char) : Option Fault :=
  let size := text.length + 1
  let result : Except Fault PUnit := do
    let (type, rest) ← readProlog size .start {} (withoutByteOrderMark text)
    let rest ← readContent { type } (followEntity type [] (2 * type.steps text)) size [] ('<' :: rest)
    readEpilog size rest
  match result with
  | .ok _ => none
  | .error fault => some fault

def position : Nat → Nat → Nat → List Char → Nat × Nat
  | 0, line, column, _ | _, line, column, [] => (line, column)
  | 1, line, _, '\r' :: _ => (line + 1, 0)
  | read + 2, line, _, '\r' :: '\n' :: rest => position read (line + 1) 0 rest
  | read + 1, line, column, c :: rest =>
      if c = '\n' || c = '\r' then position read (line + 1) 0 rest
      else position read line (column + 1) rest

def Fault.message (text : List Char) (fault : Fault) : String :=
  let (line, column) := position (text.length - fault.left) 1 0 text
  fault.cause.message ++ ": line " ++ toString line ++ ", column " ++ toString column

end MarkupLint.Xml
