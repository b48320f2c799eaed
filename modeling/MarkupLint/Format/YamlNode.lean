import MarkupLint.Format.YamlToken

set_option autoImplicit false

namespace MarkupLint.Yaml

inductive Tag where
  | null
  | bool
  | int
  | float
  | binary
  | timestamp
  | orderedMap
  | pairs
  | set
  | text
  | sequence
  | mapping
  | merge
  | value
  | other (name : String)
deriving DecidableEq, Repr

namespace Tag

def standard : String := "tag:yaml.org,2002:"

def known : List (String × Tag) :=
  [("null", .null), ("bool", .bool), ("int", .int), ("float", .float), ("binary", .binary),
    ("timestamp", .timestamp), ("omap", .orderedMap), ("pairs", .pairs), ("set", .set), ("str", .text),
    ("seq", .sequence), ("map", .mapping), ("merge", .merge), ("value", .value)]

def ofName (name : String) : Tag :=
  match Text.dropStart? standard.toList name.toList with
  | some ending => (known.lookup (String.ofList ending)).getD (.other name)
  | none => .other name

def name : Tag → String
  | .other name => name
  | tag => standard ++ (((known.find? (·.2 = tag)).map (·.1)).getD "")

end Tag

inductive Node where
  | scalar (number : Nat) (tag : Tag) (text : String) (mark : Mark)
  | sequence (number : Nat) (tag : Tag) (items : List Node) (mark : Mark)
  | mapping (number : Nat) (tag : Tag) (items : List (Node × Node)) (mark : Mark)
  | reference (number : Nat)
deriving Repr

namespace Node

def mark : Node → Mark
  | .scalar _ _ _ mark | .sequence _ _ _ mark | .mapping _ _ _ mark => mark
  | .reference _ => {}

end Node

structure Reading where
  scanner : Scanner
  handles : List (String × String) := []
  anchors : List (String × Nat × Mark) := []
  count : Nat := 0

abbrev Composing := StateT Reading (Except Fault)

namespace Composing

abbrev Resolve := String → Tag

def scan {α : Type} (step : Scanning α) : Composing α := do
  let (found, scanner) ← step.run (← get).scanner
  modify fun r => { r with scanner }
  return found

def next : Composing Token := scan Scanning.next

def take : Composing Token := scan Scanning.take

def nextKind : Composing TokenKind := return (← next).kind

def fault {α : Type} (activity : Option Activity) (start : Option Mark) (cause : Cause) (mark : Mark) :
    Composing α :=
  throw (.marked activity start cause mark)

def newNumber : Composing Nat := do
  let number := (← get).count
  modify fun r => { r with count := number + 1 }
  return number

structure Properties where
  anchor : Option String := none
  tag : Option (Option String × String) := none
  start : Option Mark := none
  tagMark : Option Mark := none

def readTag (properties : Properties) : Composing Properties := do
  let token ← next
  match token.kind with
  | .tag handle ending =>
      discard take
      return { properties with
        tag := some (handle, ending), tagMark := some token.start
        start := properties.start <|> some token.start }
  | _ => return properties

def readAnchor (properties : Properties) : Composing Properties := do
  let token ← next
  match token.kind with
  | .anchor name =>
      discard take
      return { properties with
        anchor := some name, start := properties.start <|> some token.start }
  | _ => return properties

def readProperties : Composing Properties := do
  let properties ← readAnchor {}
  if properties.anchor.isSome then readTag properties
  else
    let properties ← readTag properties
    if properties.tag.isSome then readAnchor properties else return properties

def resolveTag (properties : Properties) (start : Mark) : Composing (Option String) := do
  match properties.tag with
  | none => return none
  | some (none, ending) => return some ending
  | some (some handle, ending) =>
      match (← get).handles.lookup handle with
      | some target => return some (target ++ ending)
      | none =>
          fault Activity.node start (.undefinedHandle handle) (properties.tagMark.getD start)

def register (anchor : Option String) (start : Mark) : Composing Nat := do
  match anchor with
  | none => newNumber
  | some name =>
      match (← get).anchors.lookup name with
      | some (_, first) => fault (Activity.anchorTwice name) first .secondAnchor start
      | none =>
          let number ← newNumber
          modify fun r => { r with anchors := (name, number, start) :: r.anchors }
          return number

def isUntagged (tag : Option String) : Bool := tag.isNone || tag = some "!"

def tagOr (tag : Option String) (default : Tag) : Tag :=
  if isUntagged tag then default else (tag.map Tag.ofName).getD default

def emptyScalar (place : Mark) : Composing Node :=
  return .scalar (← newNumber) .null "" place

inductive Place where
  | block
  -- As a key or a value of a block mapping, where a sequence need not be indented.
  | blockEntry
  | flow
deriving DecidableEq, Repr

mutual

def readNode (resolve : Resolve) : Nat → Place → Composing Node
  | 0, _ => return .reference 0
  | fuel + 1, place => do
      let first ← next
      match first.kind with
      | .reference name =>
          discard take
          match (← get).anchors.lookup name with
          | some (number, _) => return .reference number
          | none => fault none none (.undefinedReference name) first.start
      | _ =>
          let properties ← readProperties
          let tag ← resolveTag properties (properties.start.getD {})
          let token ← next
          let start := properties.start.getD token.start
          let register := register properties.anchor start
          match token.kind, place with
          | .blockEntry, .blockEntry =>
              let number ← register
              return .sequence number (tagOr tag .sequence) (← readFlatEntries resolve fuel) start
          | .scalar text plain, _ =>
              discard take
              let number ← register
              let isResolved := (plain && tag.isNone) || tag = some "!"
              return .scalar number (tagOr tag (if isResolved then resolve text else .text)) text start
          | .flowSequenceStart, _ =>
              let number ← register
              discard take
              return .sequence number (tagOr tag .sequence)
                (← readFlowItems resolve fuel token.start true) start
          | .flowMappingStart, _ =>
              let number ← register
              discard take
              return .mapping number (tagOr tag .mapping)
                (← readFlowPairs resolve fuel token.start true) start
          | kind, _ =>
              if kind = .blockSequenceStart && place ≠ .flow then
                let number ← register
                discard take
                return .sequence number (tagOr tag .sequence) (← readEntries resolve fuel token.start)
                  start
              else if kind = .blockMappingStart && place ≠ .flow then
                let number ← register
                discard take
                return .mapping number (tagOr tag .mapping) (← readPairs resolve fuel token.start) start
              else if properties.start.isSome then
                let number ← register
                return .scalar number (tagOr tag (if isUntagged tag then resolve "" else .text)) "" start
              else
                fault (if place = .flow then Activity.flowNode else Activity.blockNode) start
                  (.expected "the node content" kind.title) token.start

def readEntries (resolve : Resolve) : Nat → Mark → Composing (List Node)
  | 0, _ => return []
  | fuel + 1, start => do
      let token ← next
      match token.kind with
      | .blockEntry =>
          discard take
          let following ← nextKind
          let item ←
            if following = .blockEntry || following = .blockEnd then emptyScalar token.stop
            else readNode resolve fuel .block
          return item :: (← readEntries resolve fuel start)
      | .blockEnd =>
          discard take
          return []
      | kind =>
          fault Activity.blockSequence start (.expected "<block end>" kind.title) token.start

def readFlatEntries (resolve : Resolve) : Nat → Composing (List Node)
  | 0 => return []
  | fuel + 1 => do
      let token ← next
      match token.kind with
      | .blockEntry =>
          discard take
          let following ← nextKind
          let item ←
            if [.blockEntry, .key, .value, .blockEnd].contains following then emptyScalar token.stop
            else readNode resolve fuel .block
          return item :: (← readFlatEntries resolve fuel)
      | _ => return []

def readPairs (resolve : Resolve) : Nat → Mark → Composing (List (Node × Node))
  | 0, _ => return []
  | fuel + 1, start => do
      let token ← next
      match token.kind with
      | .key =>
          discard take
          let key ← readBlockPart resolve fuel token
          let token ← next
          let value ←
            if token.kind = .value then
              discard take
              readBlockPart resolve fuel token
            else emptyScalar token.start
          return (key, value) :: (← readPairs resolve fuel start)
      | .blockEnd =>
          discard take
          return []
      | kind => fault Activity.blockMapping start (.expected "<block end>" kind.title) token.start

def readBlockPart (resolve : Resolve) : Nat → Token → Composing Node
  | 0, token => emptyScalar token.stop
  | fuel + 1, token => do
      let following ← nextKind
      if [.key, .value, .blockEnd].contains following then emptyScalar token.stop
      else readNode resolve fuel .blockEntry

def readFlowItems (resolve : Resolve) : Nat → Mark → Bool → Composing (List Node)
  | 0, _, _ => return []
  | fuel + 1, start, isFirst => do
      let token ← next
      if token.kind = .flowSequenceEnd then
        discard take
        return []
      if !isFirst then
        if token.kind = .flowEntry then discard take
        else
          fault Activity.flowSequence start (.expectedInFlow "',' or ']'" token.kind.title) token.start
      let token ← next
      match token.kind with
      | .flowSequenceEnd =>
          discard take
          return []
      | .key =>
          let number ← newNumber
          discard take
          let (key, value) ← readFlowPair resolve fuel .flowSequenceEnd token
          return .mapping number .mapping [(key, value)] token.start
            :: (← readFlowItems resolve fuel start false)
      | _ =>
          let item ← readNode resolve fuel .flow
          return item :: (← readFlowItems resolve fuel start false)

def readFlowPair (resolve : Resolve) : Nat → TokenKind → Token → Composing (Node × Node)
  | 0, _, sign => return (← emptyScalar sign.stop, ← emptyScalar sign.stop)
  | fuel + 1, ending, sign => do
      let following ← nextKind
      let key ←
        if [.value, .flowEntry, ending].contains following then emptyScalar sign.stop
        else readNode resolve fuel .flow
      let token ← next
      if token.kind = .value then
        discard take
        let following ← nextKind
        let value ←
          if [.flowEntry, ending].contains following then emptyScalar token.stop
          else readNode resolve fuel .flow
        return (key, value)
      else return (key, ← emptyScalar token.start)

def readFlowPairs (resolve : Resolve) : Nat → Mark → Bool → Composing (List (Node × Node))
  | 0, _, _ => return []
  | fuel + 1, start, isFirst => do
      let token ← next
      if token.kind = .flowMappingEnd then
        discard take
        return []
      if !isFirst then
        if token.kind = .flowEntry then discard take
        else
          fault Activity.flowMapping start (.expectedInFlow "',' or '\x7d'" token.kind.title) token.start
      let token ← next
      match token.kind with
      | .flowMappingEnd =>
          discard take
          return []
      | .key =>
          discard take
          let pair ← readFlowPair resolve fuel .flowMappingEnd token
          return pair :: (← readFlowPairs resolve fuel start false)
      | _ =>
          let key ← readNode resolve fuel .flow
          let value ← emptyScalar (← next).start
          return (key, value) :: (← readFlowPairs resolve fuel start false)

end

def skipDocumentEnds : Nat → Composing Unit
  | 0 => return
  | fuel + 1 => do
      if (← nextKind) = .documentEnd then
        discard take
        skipDocumentEnds fuel

def readDirectives : Nat → Bool → List (String × String) → Composing (List (String × String))
  | 0, _, handles => return handles
  | fuel + 1, hasVersion, handles => do
      let token ← next
      match token.kind with
      | .directive content =>
          discard take
          match content with
          | .version major _ =>
              if hasVersion then fault none none .versionTwice token.start
              if major ≠ 1 then fault none none .foreignVersion token.start
              readDirectives fuel true handles
          | .handle name target =>
              if (handles.lookup name).isSome then fault none none (.handleTwice name) token.start
              readDirectives fuel hasVersion (handles ++ [(name, target)])
          | .other => readDirectives fuel hasVersion handles
      | _ => return handles

def defaultHandles : List (String × String) := [("!", "!"), ("!!", Tag.standard)]

def documentStart (fuel : Nat) : Composing (Option Mark) := do
  skipDocumentEnds fuel
  let first ← next
  -- No place is given at the end of the text.
  if first.kind = .streamEnd then return none
  let handles ← readDirectives fuel false []
  let token ← next
  if token.kind ≠ .documentStart then
    fault none none (.expected "'<document start>'" token.kind.title) token.start
  discard take
  modify fun r => { r with handles := handles ++ defaultHandles }
  return some first.start

def documentContent (resolve : Resolve) (fuel : Nat) : Composing Node := do
  let token ← next
  match token.kind with
  | .directive _ | .documentStart | .documentEnd | .streamEnd => emptyScalar token.start
  | _ => readNode resolve fuel .block

def readDocument (resolve : Resolve) (fuel : Nat) : Composing (Option Node) := do
  let content ← match ← nextKind with
    | .directive _ | .documentStart | .streamEnd => do
        match ← documentStart fuel with
        | none => pure none
        | some _ => some <$> documentContent resolve fuel
    | _ => do
        modify fun r => { r with handles := defaultHandles }
        some <$> readNode resolve fuel .block
  match content with
  | none => return none
  | some node =>
      if (← nextKind) = .documentEnd then discard take
      match ← documentStart fuel with
      | none => return some node
      | some place => fault Activity.oneDocument node.mark .anotherDocument place

end Composing

def isAllowed (c : Char) : Bool :=
  let code := c.toNat
  code = 9 || code = 10 || code = 13 || (32 ≤ code && code ≤ 126) || code = 0x85
    || (0xA0 ≤ code && code ≤ 0xFFFD) || 0x10000 ≤ code

def readText (resolve : String → Tag) (text : List Char) : Except Fault (Option Node) :=
  match text.findIdx? (!isAllowed ·) with
  | some index => .error (.character (text.getD index endOfText) index)
  | none =>
      (Composing.readDocument resolve (4 * text.length + 8)).run'
        { scanner := { rest := text } }

end MarkupLint.Yaml
