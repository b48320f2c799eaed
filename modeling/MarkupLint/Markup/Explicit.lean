import MarkupLint.Markup.Directive

set_option autoImplicit false

namespace MarkupLint.Markup

inductive ExplicitKind where
  | footnote (label : List Char) (column : Nat)
  | citation (label : List Char) (column : Nat)
  | target (column : Nat)
  | substitution (column : Nat)
  | directive (name : List Char) (column : Nat)
  | comment
deriving Repr

def bracketed? (valid : List Char → Bool) (text : List Char) : Option (List Char × Nat) :=
  match text with
  | '[' :: inner =>
      let label := inner.takeWhile (· ≠ ']')
      match inner.drop label.length with
      | ']' :: rest =>
          if valid label then (markerWidth? (label.length + 2) rest).map fun width => (label, width)
          else none
      | _ => none
  | _ => none

def isWholeName (text : List Char) : Bool := !text.isEmpty && simpleNameOf text = text

def isFootnoteLabel (label : List Char) : Bool :=
  match label with
  | ['*'] => true
  | '#' :: name => name.isEmpty || isWholeName name
  | _ => !label.isEmpty && label.all Text.isAsciiDigit

def directiveName? (text : List Char) : Option (List Char × Nat) :=
  let name := simpleNameOf text
  if name.isEmpty then none
  else
    let rest := text.drop name.length
    let space := if rest.head? = some ' ' then 1 else 0
    match rest.drop space with
    | ':' :: ':' :: after => (markerWidth? (name.length + space + 2) after).map fun width => (name, width)
    | _ => none

def opensTarget (mark : Char) : List Char → Bool
  | c :: d :: _ => c = mark && d ≠ ' '
  | _ => false

def explicitKind (column : Nat) (line : List Char) : ExplicitKind :=
  let text := line.drop column
  if text.isEmpty then .comment
  else
  match bracketed? isFootnoteLabel text with
  | some (label, width) => .footnote label (column + width)
  | none =>
  match bracketed? isWholeName text with
  | some (label, width) => .citation label (column + width)
  | none =>
  if opensTarget '_' text then .target (column + 1)
  else if opensTarget '|' text then .substitution (column + 1)
  else
  match directiveName? text with
  | some (name, width) => .directive name (column + width)
  | none => .comment

def comment (reader : Reader) (column : Nat) (lines : List Line) : Parse Explicit := do
  match lines with
  | [] => pure ⟨[], true, []⟩
  | first :: rest =>
      let text := first.text.drop column
      if nextIsBlank rest && Text.allBlank text then
        pure ⟨[← Parse.element (.comment true) .unknown []], true, rest⟩
      else if nextIsBlank rest && Text.startsWith Directive.inclusionEndStart text then
        -- A comment that marks the end of an included file ends that inclusion and is gone.
        let state ← get
        if state.inclusions.isEmpty then throw .noInclusion
        set { state with inclusions := state.inclusions.dropLast }
        pure ⟨[], true, rest⟩
      else
        let cut := cutFirstKnown column false false lines
        reader.moveOver cut.block
        let text := blockText (dropTrailingBlank (dropLeadingBlank cut.block))
        let node ← Parse.element (.comment text.isEmpty) .unknown [.text text]
        pure ⟨[node], cut.settled, cut.rest⟩

def note (reader : Reader) (kind : Element) (label : String) (facts : Facts) (column : Nat)
    (lines : List Line) : Parse (Node × Explicit) := do
  let cut := cutFirstKnown column false false lines
  reader.moveOver cut.block
  let node ← Parse.element kind (firstPlace lines) [] facts
  let key := node.key?.getD 0
  let marks ← if facts.names.isEmpty then do
      let _ ← Parse.identify key kind.name
      pure []
    else Parse.register node true node.place
  let block := dropLeadingBlank cut.block
  let children ← if block.isEmpty then do
      Parse.report .warning (firstReported lines) (label ++ " content expected.")
      pure [Node.message]
    else reader.nested block
  let node := node.withChildren (marks ++ children)
  pure (node, ⟨[node], cut.settled, cut.rest⟩)

def footnote (reader : Reader) (label : List Char) (column : Nat) (lines : List Line) :
    Parse Explicit := do
  let name := normalName (String.ofList label)
  let (facts, labelling) : Facts × Labelling := match name.toList with
    | '#' :: rest =>
        ({ names := if rest.isEmpty then [] else [String.ofList rest], labelling := .number }, .number)
    | ['*'] => ({ labelling := .symbol }, .symbol)
    | _ => ({ names := [name] }, .written)
  let key := (← get).facts.size
  modify fun state => match labelling with
    | .number => { state with autoFootnotes := state.autoFootnotes ++ [key] }
    | .symbol => { state with symbolFootnotes := state.symbolFootnotes ++ [key] }
    | .written => { state with footnotes := state.footnotes ++ [key] }
  let (_, explicit) ← note reader .footnote "Footnote" facts column lines
  pure explicit

def citation (reader : Reader) (label : List Char) (column : Nat) (lines : List Line) :
    Parse Explicit := do
  let key := (← get).facts.size
  modify fun state => { state with citations := state.citations ++ [key] }
  let (_, explicit) ← note reader .citation "Citation"
    { names := [normalName (String.ofList label)] } column lines
  pure explicit

def targetName? (text : List Char) : Option (List Char × List Char) :=
  let colon (rest : List Char) : Option (List Char) :=
    let rest := match rest with
      | ' ' :: ':' :: after => ':' :: after
      | _ => rest
    match rest with
    | ':' :: after => if after.isEmpty || after.head? = some ' ' then some after else none
    | _ => none
  match text with
  | '_' :: rest => (colon rest).map fun after => ([], after)
  | '\x60' :: inner =>
      if inner.head? = some ' ' || inner.head? = some '\x60' then none
      else quoted colon [] inner
  | ' ' :: _ => none
  | _ => plain colon [] text
where
  quoted (colon : List Char → Option (List Char)) : List Char → List Char →
      Option (List Char × List Char)
    | _, [] => none
    | done, c :: rest =>
        let here := if c = '\x60' && nameMayEnd done then colon rest else none
        match here with
        | some after => some (done.reverse, after)
        | none => quoted colon (c :: done) rest
  plain (colon : List Char → Option (List Char)) : List Char → List Char →
      Option (List Char × List Char)
    | done, [] => if nameMayEnd done && !endsInColon done then (colon []).map fun a => (done.reverse, a) else none
    | done, c :: rest =>
        let here := if nameMayEnd done && !endsInColon done then colon (c :: rest) else none
        match here with
        | some after => some (done.reverse, after)
        | none => plain colon (c :: done) rest
  nameMayEnd : List Char → Bool
    | [] => false
    | c :: _ => !Text.isBlank c && c ≠ escapeMark
  endsInColon : List Char → Bool
    | ':' :: before => before.head? ≠ some escapeMark
    | _ => false

def targetNameOver : Nat → List Char → List (List Char) →
    Option (List Char × List Char × List (List Char))
  | 0, _, _ => none
  | fuel + 1, text, more =>
      match targetName? text with
      | some (name, after) => some (name, after, more)
      | none =>
          match more with
          | next :: rest => targetNameOver fuel (text ++ next) rest
          | [] => none

def targetNode (place : Place) (name : String) (block : List (List Char)) : Parse Node := do
  let lead := leadOf block
  let facts : Facts := match lead with
    | .name other => { refname := some (normalName other) }
    | .address address =>
        if address.isEmpty then {}
        else { refuri := some (if name.isEmpty then address else Address.full address.toList) }
  let facts := if name.isEmpty then { facts with anonymous := true }
    else { facts with names := [normalName name] }
  let node ← Parse.element .target place [] facts
  let key := node.key?.getD 0
  if name.isEmpty then
    let _ ← Parse.identify key "target"
  -- What is said about the name waits for the block around the target.
  else Parse.await (← Parse.register node true place)
  match facts.refname with
  | some other => do
      modify fun state => { state with indirectTargets := state.indirectTargets ++ [key] }
      if !name.isEmpty then Parse.noteReference other key
  | none => pure ()
  pure node

def hyperlinkTarget (reader : Reader) (column : Nat) (lines : List Line) : Parse (Option Explicit) := do
  let cut := cutFirstKnown column true true lines
  reader.moveOver cut.block
  match cut.block.map fun line => markEscapes line.text with
  | [] => pure none
  | first :: more =>
      match targetNameOver (more.length + 1) first more with
      | none =>
          Parse.report .warning (lastReported cut.block) "malformed hyperlink target."
          pure none
      | some (name, after, rest) =>
          let block := Text.trim after :: rest
          let node ← targetNode (firstReported lines) (String.ofList (dropEscapes name)) block
          pure (some ⟨[node], cut.settled, cut.rest⟩)

def anonymousTarget (reader : Reader) (column : Nat) (lines : List Line) : Parse Explicit := do
  let cut := cutFirstKnown column true false lines
  reader.moveOver cut.block
  let node ← targetNode (firstReported lines) "" (cut.block.map fun line => markEscapes line.text)
  pure ⟨[node], cut.settled, cut.rest⟩

def substitutionName? : List Char → List Char → Option (List Char × List Char)
  | _, [] => none
  | done, c :: rest =>
      let mayEnd := match done with
        | d :: _ => !Text.isBlank d && d ≠ escapeMark
        | [] => false
      if c = '|' && mayEnd && (rest.isEmpty || rest.head? = some ' ') then some (done.reverse, rest)
      else substitutionName? (c :: done) rest

def substitutionNameOver : Nat → List Char → List Line →
    Option (List Char × List Char × List Line)
  | 0, _, _ => none
  | fuel + 1, text, more =>
      match substitutionName? [] text with
      | some (name, after) => some (name, after, more)
      | none =>
          match more with
          | next :: rest =>
              substitutionNameOver fuel (text ++ ' ' :: markEscapes (Text.trim next.text)) rest
          | [] => none

-- The first element that may not stand in a substitution: one that has an identifier, or that waits for a
-- label or an anonymous target.
def illegalElement? (nodes : List Node) : Parse (Option String) := do
  let state ← get
  pure <| (Node.visits nodes).findSome? fun visit =>
    let facts := state.factsOf visit.key
    let isOpen : Bool := match visit.kind with
      | .reference _ => facts.anonymous
      | .footnoteReference _ => facts.labelling ≠ .written
      | _ => false
    if !facts.ids.isEmpty || isOpen then some visit.kind.name else none

def storeSubstitution (place : Place) (name : String) (key : Nat) : Parse (List Node) := do
  let state ← get
  let known := (state.substitutions.lookup name).isSome
  if known then
    Parse.reportNear .error place ("Duplicate substitution definition name: \"" ++ name ++ "\".")
  modify fun state => { state with substitutions := putNamed name key state.substitutions }
  pure (if known then [Node.message] else [])

def embeddedName? (text : List Char) : Option (List Char × Nat) :=
  let name := simpleNameOf text
  if name.isEmpty then none
  else
    match text.drop name.length with
    | ':' :: ':' :: after => (markerWidth? (name.length + 2) after).map fun width => (name, width)
    | _ => none

def definedNodes (reader : Reader) (name : String) (head : Line) (tail : List Line) :
    Parse (List Node) := do
  match embeddedName? head.text with
  | some (directiveName, width) => do
      let inner := { reader with context := { titles := true } }
      let found ← directive inner (some name) (String.ofList directiveName) width (head :: tail)
      pure found.nodes
  | none => pure []

def defineSubstitution (reader : Reader) (place : Place) (name shown : String) (head : Line)
    (tail : List Line) : Parse (List Node) := do
  let squeezed := squeezedName name
  let key := (← get).facts.size
  let definition ← Parse.element (.substitutionDefinition squeezed shown) place []
  let nodes ← definedNodes reader squeezed head tail
  let inside := nodes.filter fun node => !node.isMessage && node.isInline
  -- Nodes that do not fit into a line of text stand before the definition.
  let outside ← reader.attach (nodes.filter fun node => node.isMessage || !node.isInline)
  match ← illegalElement? inside with
  | some tag =>
      Parse.report .error place ("Substitution definition contains illegal element <" ++ tag ++ ">:")
        ["<" ++ tag ++ ">", shown]
      Parse.drop inside
      pure (outside ++ [Node.message])
  | none =>
      if inside.isEmpty then
        Parse.report .warning place ("Substitution definition \"" ++ name ++ "\" empty or invalid.") [shown]
        pure (outside ++ [Node.message])
      else
        let marks ← storeSubstitution place squeezed key
        pure (outside ++ marks ++ [definition.withChildren inside])

def substitutionDefinition (reader : Reader) (column : Nat) (lines : List Line) :
    Parse (Option Explicit) := do
  let place := firstPlace lines
  let cut := cutFirstKnown column false true lines
  reader.moveOver cut.block
  let shown := String.ofList (((lines.head?.map fun line => line.text.take column).getD [])
    ++ joinLines cut.block)
  match cut.block with
  | [] => pure none
  | first :: more =>
      match substitutionNameOver (more.length + 1) (markEscapes (Text.trimRight first.text)) more with
      | none =>
          Parse.report .warning (lastReported cut.block) "malformed substitution definition."
          pure none
      | some (name, after, rest) =>
          let name := String.ofList name
          let text := restoreEscapes (Text.trim after)
          let start := firstReported lines
          let passed := (first :: more)[more.length - rest.length]?
          let head := { (passed.getD first) with text := text }
          let block := dropTrailingBlank
            (if text.isEmpty then reportFrom (start.down 1) rest else reportFrom start (head :: rest))
          match block with
          | [] =>
              Parse.report .warning place ("Substitution definition \"" ++ name
                ++ "\" missing contents.") [shown]
              pure (some ⟨[Node.message], cut.settled, cut.rest⟩)
          | head :: tail =>
              let head := { head with text := Text.trim head.text }
              let nodes ← defineSubstitution reader place name shown head tail
              let settled := if tail.isEmpty || (embeddedName? head.text).isSome then cut.settled
                else nextIsBlank tail
              pure (some ⟨nodes, settled, cut.rest⟩)

def explicitConstruct (reader : Reader) (column : Nat) (lines : List Line) : Parse Explicit := do
  let text := (lines.head?.map (·.text)).getD []
  let orComment (result : Option Explicit) : Parse Explicit := do
    match result with
    | some found => pure found
    | none =>
        let found ← comment reader column lines
        pure { found with nodes := found.nodes ++ [Node.message] }
  match explicitKind column text with
  | .footnote label width => footnote reader label width lines
  | .citation label width => citation reader label width lines
  | .target width => orComment (← hyperlinkTarget reader width lines)
  | .substitution width => orComment (← substitutionDefinition reader width lines)
  | .directive name width => directive reader none (String.ofList name) width lines
  | .comment => comment reader column lines

def explicitAt? (reader : Reader) (lines : List Line) : Parse (Option Explicit) := do
  match lines with
  | [] => pure none
  | first :: _ =>
      if first.startsIndented || first.isBlank then pure none
      else
        let before ← Parse.collect
        let found? ← match opening first.text with
          | .explicit column => do
              reader.moveTo first.place
              pure (some (← explicitConstruct reader column lines))
          | .anonymous column => do
              reader.moveTo first.place
              pure (some (← anonymousTarget reader column lines))
          | _ => pure none
        match found? with
        | none => pure none
        | some found =>
            let nodes ← reader.attach found.nodes
            pure (some { found with nodes := before ++ (← Parse.collect) ++ nodes })

def explicitList (reader : Reader) : Nat → Bool → List Line → Parse Explicit
  | 0, settled, lines => pure ⟨[], settled, lines⟩
  | fuel + 1, settled, lines => do
      match ← explicitAt? reader lines with
      | none => pure ⟨[], settled, lines⟩
      | some found =>
          let others ← explicitList reader.aside fuel found.settled found.rest
          pure { others with nodes := found.nodes ++ others.nodes }

def explicitBlock (reader : Reader) (lines : List Line) : Parse Built := do
  let found ← explicitList reader (lines.length + 1) true lines
  let warning ← unindentWarning found.settled "Explicit markup" (reportedAfter lines found.rest)
  pure ⟨found.nodes ++ warning, found.rest, true⟩

end MarkupLint.Markup
