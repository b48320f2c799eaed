import MarkupLint.Markup.Reader

set_option autoImplicit false

namespace MarkupLint.Markup

structure Run where
  nodes : List Node
  settled : Bool
  rest : List Line

namespace Run

def stop (settled : Bool) (rest : List Line) : Run := ⟨[], settled, rest⟩

def after (first : Node) (run : Run) : Run := { run with nodes := first :: run.nodes }

end Run

-- One item of a list: the text behind the marker and the lines indented to it, or, if nothing stands behind
-- the marker, the indented lines below.
def itemCut (column : Nat) (lines : List Line) : Cut :=
  match lines with
  | first :: _ =>
      if (first.text.drop column).isEmpty then cutFirstKnown column false false lines
      else cutKnownIndent column lines
  | [] => ⟨[], 0, true, []⟩

def listItem (reader : Reader) (cut : Cut) : Parse Node := do
  reader.moveOver cut.block
  let children ← reader.nested (dropLeadingBlank cut.block)
  reader.attachOne (← Parse.group "list_item" .unknown children)

def bulletItems (reader : Reader) (mark : Char) : Nat → Bool → List Line → Parse Run
  | 0, settled, lines => pure (.stop settled lines)
  | fuel + 1, settled, lines => do
      let ahead := dropLeadingBlank lines
      match ahead with
      | first :: _ =>
          match opening first.text with
          | .bullet other column =>
              if other = mark then
                let cut := itemCut column ahead
                let item ← listItem reader cut
                pure ((← bulletItems reader mark fuel cut.settled cut.rest).after item)
              else pure (.stop settled ahead)
          | _ => pure (.stop settled ahead)
      | [] => pure (.stop settled [])

def bulletList (reader : Reader) (mark : Char) (column : Nat) (lines : List Line) : Parse Built := do
  let cut := itemCut column lines
  let item ← listItem reader cut
  let run ← bulletItems reader.aside mark lines.length cut.settled cut.rest
  let warning ← unindentWarning run.settled "Bullet list" (reportedAfter lines run.rest)
  let list ← Parse.group "bullet_list" (firstPlace lines) (item :: run.nodes)
  pure ⟨list :: warning, run.rest, true⟩

-- Whether an enumerator starts an item: the next line is blank, indented, or the next number.
def startsEnumeration (item : Enumerator) (sequence : EnumSequence) (rest : List Line) : Bool :=
  match ordinal? sequence item.text with
  | none => false
  | some ordinal =>
      match rest with
      | [] => true
      | next :: _ =>
          (next.text.head?.map Text.isBlank).getD true ||
            match ordinalText? sequence (ordinal + 1) with
            | none => false
            | some number =>
                Text.startsWith (formatNumber item.format number ++ [' ']) next.text
                  || Text.startsWith (formatNumber item.format ['#'] ++ [' ']) next.text

structure Enumeration where
  format : EnumFormat
  sequence : EnumSequence
  auto : Bool
  last : Nat

def enumeratedItems (reader : Reader) : Nat → Enumeration → Bool → List Line → Parse Run
  | 0, _, settled, lines => pure (.stop settled lines)
  | fuel + 1, run, settled, lines => do
      let ahead := dropLeadingBlank lines
      match ahead with
      | first :: after =>
          match opening first.text with
          | .enumerator item =>
              let sequence := sequenceOf (some run.sequence) item.text
              let ordinal := (ordinal? sequence item.text).getD 0
              let fits := item.format = run.format
                && (sequence = .auto
                  || (sequence = run.sequence && !run.auto && ordinal = run.last + 1))
                && startsEnumeration item sequence after
              if fits then
                let cut := itemCut item.width ahead
                let node ← listItem reader cut
                let next := { run with auto := run.auto || sequence = .auto, last := ordinal }
                pure ((← enumeratedItems reader fuel next cut.settled cut.rest).after node)
              else pure (.stop settled ahead)
          | _ => pure (.stop settled ahead)
      | [] => pure (.stop settled [])

def enumeratedList (reader : Reader) (item : Enumerator) (sequence : EnumSequence)
    (lines : List Line) : Parse Built := do
  let ordinal := (ordinal? sequence item.text).getD 1
  let list ← reader.attachOne (← Parse.group "enumerated_list" .unknown [])
  let started ← if ordinal = 1 then pure []
    else do
      Parse.report .info (firstReported lines) ("Enumerated list start value not ordinal-1: \""
        ++ String.ofList item.text ++ "\" (ordinal " ++ toString ordinal ++ ")")
      pure [Node.message]
  let cut := itemCut item.width lines
  let node ← listItem reader cut
  let kind := if sequence = .auto then EnumSequence.arabic else sequence
  let run ← enumeratedItems reader.aside lines.length
    ⟨item.format, kind, sequence = .auto, ordinal⟩ cut.settled cut.rest
  let warning ← unindentWarning run.settled "Enumerated list" (reportedAfter lines run.rest)
  pure ⟨list.withChildren (node :: run.nodes) :: started ++ warning, run.rest, true⟩

def definitionItem (reader : Reader) (term : Line) (below : List Line) : Parse Run := do
  let cut := cutIndented below
  let definitionPlace := firstPlace below
  reader.moveOver cut.block
  let (termNodes, messages) ← inlineText term.reported term.text
  let hint ← if Text.endsWith "::".toList term.text then do
      Parse.report .info (firstReported below) ("Blank line missing before literal block (after the "
        ++ "\"::\")? Interpreted as a definition list item.")
      pure [Node.message]
    else pure []
  let children ← reader.nested (dropLeadingBlank cut.block)
  let term' ← Parse.element (.textBlock "term") term.place termNodes
  let definition ← Parse.group "definition" definitionPlace (messages ++ hint ++ children)
  let item ← Parse.group "definition_list_item" term.place [term', definition]
  pure ⟨[item], cut.settled, cut.rest⟩

def definitionItems (reader : Reader) : Nat → Bool → List Line → Parse Run
  | 0, settled, lines => pure (.stop settled lines)
  | fuel + 1, settled, lines => do
      let ahead := dropLeadingBlank lines
      match ahead with
      | term :: next :: below =>
          if isPlainText term && isIndentedText next then
            let item ← definitionItem reader term (next :: below)
            let run ← definitionItems reader fuel item.settled item.rest
            pure { run with nodes := item.nodes ++ run.nodes }
          else pure (.stop settled ahead)
      | _ => pure (.stop settled ahead)

def definitionList (reader : Reader) (term : Line) (below : List Line) : Parse Built := do
  let item ← definitionItem reader term below
  let run ← definitionItems reader.aside below.length item.settled item.rest
  let warning ← unindentWarning run.settled "Definition list" (reportedAfter below run.rest)
  let list ← Parse.group "definition_list" term.place (item.nodes ++ run.nodes)
  pure ⟨list :: warning, run.rest, true⟩

def fieldItem (reader : Reader) (name : List Char) (column : Nat) (lines : List Line) : Parse Run := do
  let cut := cutFirstKnown column false false lines
  reader.moveOver cut.block
  let (nameNodes, messages) ← inlineText (firstReported lines) name
  let children ← reader.nested (dropLeadingBlank cut.block)
  let fieldName ← Parse.element (.textBlock "field_name") .unknown nameNodes
  let body ← Parse.group "field_body" .unknown (messages ++ children)
  let field ← Parse.group "field" (firstPlace lines) [fieldName, body]
  pure ⟨[field], cut.settled, cut.rest⟩

def fieldItems (reader : Reader) : Nat → Bool → List Line → Parse Run
  | 0, settled, lines => pure (.stop settled lines)
  | fuel + 1, settled, lines => do
      let ahead := dropLeadingBlank lines
      match ahead with
      | first :: _ =>
          match opening first.text with
          | .field name column =>
              let item ← fieldItem reader name column ahead
              let run ← fieldItems reader fuel item.settled item.rest
              pure { run with nodes := item.nodes ++ run.nodes }
          | _ => pure (.stop settled ahead)
      | [] => pure (.stop settled [])

def fieldList (reader : Reader) (name : List Char) (column : Nat) (lines : List Line) : Parse Built := do
  let list ← reader.attachOne (← Parse.group "field_list" .unknown [])
  let item ← fieldItem reader name column lines
  let run ← fieldItems reader.aside lines.length item.settled item.rest
  let warning ← unindentWarning run.settled "Field list" (reportedAfter lines run.rest)
  pure ⟨list.withChildren (item.nodes ++ run.nodes) :: warning, run.rest, true⟩

def attribution? (text : List Char) : Option Nat :=
  let dash : Option Nat := match text with
    | '-' :: '-' :: '-' :: rest => if rest.head? = some '-' then none else some 3
    | '-' :: '-' :: _ => some 2
    | '—' :: _ => some 1
    | _ => none
  dash.bind fun width =>
    let rest := text.drop width
    if (rest.dropWhile (· = ' ')).isEmpty then none else some (width + spaceCount rest)

def attributionLength? (lines : List Line) : Option Nat :=
  let (block, _) := cutText lines
  match block with
  | [] => none
  | [_] => some 1
  | _ :: second :: others =>
      if others.all fun line => line.indent = second.indent then some block.length else none

def splitAttribution : Bool → Bool → List Line → List Line × Option (List Line × List Line)
  | _, _, [] => ([], none)
  | seen, afterBlank, line :: rest =>
      let found := if seen && afterBlank && !line.isBlank && (attribution? line.text).isSome then
          attributionLength? (line :: rest)
        else none
      match found with
      | some count => ([], some ((line :: rest).take count, (line :: rest).drop count))
      | none =>
          let (before, split) := splitAttribution (seen || !line.isBlank) line.isBlank rest
          (line :: before, split)

def blockQuotes (reader : Reader) : Nat → List Line → Parse (List Node)
  | 0, _ => pure []
  | fuel + 1, block => do
      match dropLeadingBlank block with
      | [] => pure []
      | first :: others =>
          let (quote, split) := splitAttribution false false (first :: others)
          let children ← reader.nested quote
          match split with
          | none => pure [← Parse.group "block_quote" first.place children]
          | some (attribution, rest) =>
              let text := match attribution with
                | line :: more =>
                    line.drop ((attribution? line.text).getD 0)
                      :: more.map fun l => l.drop ((more.head?.map (·.indent)).getD 0)
                | [] => []
              let (nodes, messages) ← inlineText (firstReported attribution)
                (Text.trimRight (joinLines text))
              let source ← Parse.element (.textBlock "attribution") (firstPlace attribution) nodes
              let quoted ← Parse.group "block_quote" first.place (children ++ [source])
              pure (quoted :: messages ++ (← blockQuotes reader fuel rest))

def blockQuote (reader : Reader) (lines : List Line) : Parse Built := do
  let cut := cutIndented lines
  reader.moveOver cut.block
  let quotes ← blockQuotes reader (cut.block.length + 1) cut.block
  let quotes ← reader.attach quotes
  let warning ← unindentWarning cut.settled "Block quote" (reportedAfter lines cut.rest)
  pure ⟨quotes ++ warning, cut.rest, false⟩

def optionCut? (column : Nat) (lines : List Line) : Option Cut :=
  let cut := cutFirstKnown column false false lines
  if (dropLeadingBlank cut.block).isEmpty then none else some cut

def optionsFault? (column : Nat) (lines : List Line) : Option String :=
  lines.head?.bind fun line => optionFault? (line.text.take column)

def optionItem (reader : Reader) (cut : Cut) : Parse Node := do
  reader.moveOver cut.block
  let children ← reader.nested (dropLeadingBlank cut.block)
  let description ← Parse.group "description" .unknown children
  reader.attachOne (← Parse.group "option_list_item" .unknown [description])

def optionItems (reader : Reader) : Nat → Bool → List Line → Parse Run
  | 0, settled, lines => pure (.stop settled lines)
  | fuel + 1, settled, lines => do
      let ahead := dropLeadingBlank lines
      match ahead with
      | first :: _ =>
          match opening first.text with
          | .option column =>
              match optionCut? column ahead, optionsFault? column ahead with
              | some cut, none =>
                  let item ← optionItem reader cut
                  pure ((← optionItems reader fuel cut.settled cut.rest).after item)
              | _, _ => pure (.stop settled ahead)
          | _ => pure (.stop settled ahead)
      | [] => pure (.stop settled [])

def optionList (reader : Reader) (cut : Cut) (lines : List Line) : Parse Built := do
  let item ← optionItem reader cut
  let run ← optionItems reader.aside lines.length cut.settled cut.rest
  let warning ← unindentWarning run.settled "Option list" (reportedAfter lines run.rest)
  let list ← Parse.group "option_list" (firstPlace lines) (item :: run.nodes)
  pure ⟨list :: warning, run.rest, true⟩

def malformedOptions (reader : Reader) (fault : String) (column : Nat) (lines : List Line) :
    Parse Built := do
  Parse.reportNear .error .unknown ("Invalid option list marker: " ++ fault)
  let cut := cutFirstKnown column false false lines
  reader.moveOver cut.block
  let quotes ← reader.attach (← blockQuotes reader (cut.block.length + 1) cut.block)
  let warning ← unindentWarning cut.settled "Option list" (reportedAfter lines cut.rest)
  pure ⟨Node.message :: quotes ++ warning, cut.rest, false⟩

def blockLine (reader : Reader) (column : Nat) (lines : List Line) :
    Parse (Node × List Node × Bool × List Line) := do
  let cut := cutFirstKnown column true false lines
  reader.moveOver cut.block
  let (nodes, messages) ← inlineText (firstReported lines) (joinLines (dropLeadingBlank cut.block))
  let line ← reader.attachOne (← Parse.element (.textBlock "line") .unknown nodes)
  pure (line, messages, cut.settled, cut.rest)

def blockLines (reader : Reader) : Nat → List Line → Parse (List Node × List Node × Bool × List Line)
  | 0, lines => pure ([], [], false, lines)
  | fuel + 1, lines => do
      match lines with
      | first :: _ =>
          match opening first.text with
          | .lineBlock column =>
              let (line, messages, settled, rest) ← blockLine reader column lines
              if settled && nextIsBlank rest then pure ([line], messages, settled, rest)
              else
                let (others, otherMessages, settled, rest) ← blockLines reader fuel rest
                pure (line :: others, messages ++ otherMessages, settled, rest)
          | _ => pure ([], [], false, lines)
      | [] => pure ([], [], true, [])

def lineBlock (reader : Reader) (column : Nat) (lines : List Line) : Parse Built := do
  let (line, messages, alone, rest) ← blockLine reader column lines
  let (others, otherMessages, settled, rest) ←
    if alone then pure ([], [], true, rest) else blockLines reader.aside lines.length rest
  let warning ← if settled then pure []
    else do
      Parse.report .warning ((firstReported lines).down 1) "Line block ends without a blank line."
      pure [Node.message]
  let block ← Parse.group "line_block" (firstPlace lines) (line :: others)
  pure ⟨block :: messages ++ otherMessages ++ warning, rest, !alone⟩

end MarkupLint.Markup
