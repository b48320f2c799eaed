import MarkupLint.Markup.Explicit

set_option autoImplicit false

namespace MarkupLint.Markup

inductive Item where
  | node (node : Node)
  | heading (level : Nat) (key : Nat) (place : Place) (children : List Node)

def nodeItems (nodes : List Node) : List Item := nodes.map .node

structure Stretch where
  items : List Item
  rest : List Line
  jumped : Bool := false

namespace Stretch

def ofBuilt (built : Built) : Stretch := ⟨nodeItems built.nodes, built.rest, built.jumped⟩

def message (rest : List Line) : Stretch := ⟨[.node Node.message], rest, false⟩

def after (nodes : List Node) (found : Stretch) : Stretch := { found with items := nodeItems nodes ++ found.items }

end Stretch

structure TitleText where
  title : List Char
  source : List Char
  style : List Char
  reported : Place
  last : Place

inductive TitleLevel where
  | deeper (level : Nat)
  | outer (level : Nat)
  | inconsistent
deriving DecidableEq, Repr

-- A new style is one level deeper than the current section, and only there may a new style occur.
def titleLevel (styles : List (List Char)) (current : Nat) (style : List Char) : TitleLevel :=
  match styles.findIdx? (· = style) with
  | none => if styles.length = current then .deeper (current + 1) else .inconsistent
  | some place =>
      if place + 1 ≤ current then .outer (place + 1)
      else if place = current then .deeper (place + 1)
      else .inconsistent

def openSection (level : Nat) (text : TitleText) (messages : List Node) : Parse (List Item) := do
  -- The outermost reader gets as far as the titles of the first level.
  modify fun state =>
    { state with level := level, main := if level = 1 then text.last else state.main }
  let (nodes, titleMessages) ← inlineText text.reported text.title
  let name := normalName (Node.contentOfAll nodes)
  let opened ← Parse.element .section text.last [] { names := [name] }
  let marks ← Parse.register opened false text.last
  let title ← Parse.element .title text.last nodes
  pure [.heading level (opened.key?.getD 0) text.last (title :: messages ++ titleMessages ++ marks)]

def sectionTitle (text : TitleText) (warn : Parse (List Node)) : Parse (List Item) := do
  let messages ← warn
  let state ← get
  match titleLevel state.titleStyles state.level text.style with
  | .deeper level =>
      if state.titleStyles.length < level then
        set { state with titleStyles := state.titleStyles ++ [text.style] }
      openSection level text messages
  | .outer level =>
      -- A title that closes sections is read once more by the section that it belongs to, and its
      -- messages are given once more.
      let messages ← warn
      openSection level text messages
  | .inconsistent =>
      Parse.report .severe text.reported "Title level inconsistent:" [String.ofList text.source]
      pure [.node Node.message]

def underlined (reader : Reader) (first under : Line) (rest : List Line) : Parse Stretch := do
  let title := Text.trimRight first.text
  let underline := Text.trimRight under.text
  let short := Text.columnWidth title > underline.length
  let block := String.ofList (first.text ++ '\n' :: under.text)
  let warnShort : Parse (List Node) := do
    if short then
      Parse.report .warning under.reported "Title underline too short." [block]
      pure [Node.message]
    else pure []
  if short && underline.length < 4 then
    let hint ← if reader.context.titles then do
        Parse.report .info under.reported ("Possible title underline, too short for the title.\n"
          ++ "Treating it as ordinary text because it's so short.")
        pure [Node.message]
      else pure []
    pure ((Stretch.ofBuilt (← textParagraph reader (first :: under :: rest))).after hint)
  else if reader.context.titles then
    reader.moveTo under.place
    let items ← sectionTitle
      { title := title, source := title ++ '\n' :: underline, style := underline.take 1
        reported := first.reported, last := under.place } warnShort
    pure ⟨items, rest, false⟩
  else
    reader.moveTo under.place
    let messages ← warnShort
    Parse.report .severe under.place "Unexpected section title." [block]
    pure ⟨nodeItems (messages ++ [Node.message]), rest, false⟩

def textBlock (reader : Reader) (first : Line) (rest : List Line) : Parse Stretch := do
  match rest with
  | [] => do
      modify fun state =>
        { state with
          current := ⟨first.place.source, none⟩
          main := if reader.context.main && state.level = 0 then first.place.down 1 else state.main }
      pure (.ofBuilt (← paragraphWithLiteral reader [first] rest))
  | next :: below =>
      if next.isBlank then
        reader.moveTo next.place
        pure (.ofBuilt (← paragraphWithLiteral reader [first] rest))
      else if next.startsIndented then pure (.ofBuilt (← definitionList reader first rest))
      else if isRule next.text then underlined reader first next below
      else pure (.ofBuilt (← textParagraph reader (first :: rest)))

def transition (first : Line) (rest : List Line) : Parse Stretch := do
  pure ⟨[.node (← Parse.element .transition first.place [])], rest, false⟩

def ruled (reader : Reader) (first : Line) (rest : List Line) : Parse Stretch := do
  let overline := Text.trimRight first.text
  let isShort := overline.length < 4
  let asText : Parse Stretch := textBlock reader first rest
  let shortHint : Parse Stretch := do
    Parse.report .info first.reported ("Possible incomplete section title.\n"
      ++ "Treating the overline as ordinary text because it's so short.")
    pure ((← asText).after [Node.message])
  let complain (text : String) (severity : Severity) (block : List Char) (rest : List Line) :
      Parse Stretch := do
    Parse.report severity first.reported text [String.ofList block]
    pure (.message rest)
  match rest with
  | [] => if isShort then asText else transition first []
  | next :: below =>
      if next.isBlank then
        if isShort then asText
        else do
          reader.moveTo next.place
          transition first below
      else if isRule next.text && !next.startsIndented then
        if isShort then shortHint
        else
          complain "Invalid section title or transition marker." .error
            (first.text ++ '\n' :: next.text) below
      else
        match below with
        | [] =>
            if isShort then shortHint
            else complain "Incomplete section title." .severe (first.text ++ '\n' :: next.text) []
        | under :: after =>
            let underline := Text.trimRight under.text
            let source := first.text ++ '\n' :: next.text ++ '\n' :: under.text
            if !isRule underline then
              if isShort then shortHint
              else complain "Missing matching underline for section title overline." .severe source after
            else if overline ≠ underline then
              if isShort then shortHint
              else complain "Title overline & underline mismatch." .severe source after
            else
              let title := Text.trimRight next.text
              let wide := Text.columnWidth title > overline.length
              if wide && isShort then shortHint
              else
                let warnWide : Parse (List Node) := do
                  if wide then
                    Parse.report .warning first.reported "Title overline too short."
                      [String.ofList source]
                    pure [Node.message]
                  else pure []
                reader.moveTo under.place
                let items ← sectionTitle
                  { title := Text.trimLeft title, source := source
                    style := [overline.headD ' ', underline.headD ' ']
                    reported := next.reported, last := under.place } warnWide
                pure ⟨items, after, false⟩

def unexpectedRule (reader : Reader) (first : Line) (rest : List Line) : Parse Stretch := do
  let text := Text.trim first.text
  if text = "::".toList then textBlock reader first rest
  else if text.length < 4 then
    Parse.report .info first.reported ("Unexpected possible title overline or transition.\n"
      ++ "Treating it as ordinary text because it's so short.")
    pure ((← textBlock reader first rest).after [Node.message])
  else
    Parse.report .severe first.reported "Unexpected section title or transition."
      [String.ofList first.text]
    pure (.message rest)

def doctestBlock (reader : Reader) (lines : List Line) : Parse Stretch := do
  let (block, rest) := cutText lines
  reader.moveOver block
  let text := blockText block
  let node ← Parse.element (.doctestBlock text [preserved]) .unknown [.text text]
  pure ⟨[.node (← reader.attachOne node)], rest, false⟩

def blockAt (reader : Reader) (first : Line) (rest : List Line) : Parse Stretch := do
  let lines := first :: rest
  let built (action : Parse Built) : Parse Stretch := do pure (.ofBuilt (← action))
  if first.startsIndented then built (blockQuote reader lines)
  else
    match opening first.text with
    | .bullet mark column => built (bulletList reader mark column lines)
    | .enumerator item =>
        let sequence := sequenceOf none item.text
        if startsEnumeration item sequence rest then built (enumeratedList reader item sequence lines)
        else textBlock reader first rest
    | .field name column => built (fieldList reader name column lines)
    | .option column =>
        match optionsFault? column lines, optionCut? column lines with
        | some fault, _ => built (malformedOptions reader fault column lines)
        | none, some cut => built (optionList reader cut lines)
        | none, none => textBlock reader first rest
    | .doctest => doctestBlock reader lines
    | .lineBlock column => built (lineBlock reader column lines)
    | .gridTable => built (table reader (gridCut lines) gridShape)
    | .simpleTable => built (table reader (simpleCut lines) simpleShape)
    | .explicit _ => built (explicitBlock reader lines)
    | .anonymous _ => built (explicitBlock reader lines)
    | .rule => if reader.context.titles then ruled reader first rest else unexpectedRule reader first rest
    | .text => textBlock reader first rest

def plainItems (items : List Item) : List Node :=
  items.filterMap fun
    | .node node => some node
    | .heading _ _ _ _ => none

-- Where the reading stands behind the last line. `past` tells that a jump has led beyond it.
def endReading (context : Context) (past : Bool) (last : Place) : Parse Unit :=
  modify fun state =>
    let past := past || (context.main && 0 < state.level)
    { state with
      current := if past then .unknown else ⟨last.source, none⟩
      main := if context.main then if past then .unknown else last.down 1 else state.main }

-- Reads blocks until the lines are used up. Every block takes at least one line, and a block inside another
-- one has fewer characters than that. `before` holds the lines from the last block on.
def items (context : Context) : Nat → List Line → Bool → List Line → Parse (List Item)
  | 0, _, _, _ => pure []
  | fuel + 1, before, jumped, lines => do
      match dropLeadingBlank lines with
      | [] => do
          endReading context (jumped && lines.isEmpty) (lastPlace before .unknown)
          pure []
      | first :: rest =>
          let reader : Reader :=
            ⟨context, fun inner block => do pure (plainItems (← items inner fuel block false block))⟩
          reader.moveTo first.place
          let found ← blockAt reader first rest
          let marks ← Parse.collect
          let others ← items context fuel (if found.rest.isEmpty then lines else found.rest) found.jumped
            found.rest
          pure (nodeItems marks ++ found.items ++ others)

def size (lines : List Line) : Nat := lines.foldl (fun sum line => sum + line.text.length + 1) 1

mutual

def nest : Nat → Nat → List Item → List Node × List Item
  | 0, _, items => ([], items)
  | _ + 1, _, [] => ([], [])
  | fuel + 1, level, .node node :: rest =>
      let (nodes, left) := nest fuel level rest
      (node :: nodes, left)
  | fuel + 1, level, .heading deeper key place children :: rest =>
      if deeper ≤ level then ([], .heading deeper key place children :: rest)
      else
        let (inside, left) := nest fuel deeper rest
        let (nodes, left) := nest fuel level left
        (.element key .section place (children ++ inside) :: nodes, left)

end

def inclusionSteps : Nat := 1000000

def documentNodes (lines : List Line) : Parse (List Node) := do
  modify fun state => { state with mainPlaces := lines.map (·.place) }
  let found ← items { main := true, attached := true, titles := true } (size lines + inclusionSteps) lines
    false lines
  pure (nest (2 * found.length + 2) 0 found).1

end MarkupLint.Markup
