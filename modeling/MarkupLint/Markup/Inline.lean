import MarkupLint.Markup.Address
import MarkupLint.Markup.Role

set_option autoImplicit false

namespace MarkupLint.Markup

structure Piece where
  before : List Char
  nodes : List Node
  messages : List Node := []
  rest : List Char

def textOf (text : List Char) : String := String.ofList (dropEscapes text)

def writtenText (text : List Char) : String := String.ofList (restoreEscapes text)

def withoutEnd (place : Place) (label : String) (found : Found) : Parse Piece := do
  Parse.report .warning place ("Inline " ++ label ++ " start-string without end-string.")
  let marker := match found.start with
    | .interpreted _ => ['\x60']
    | _ => found.marker
  let before := found.before ++ found.marker.take (found.marker.length - marker.length)
  pure ⟨before, [← problematic marker], [Node.message], found.rest⟩

def nameReference (raw : String) (name : String) (children : List Node) : Parse Node := do
  let node ← Parse.element (.reference raw) .unknown children { refname := some name }
  Parse.noteReference name (node.key?.getD 0)
  pure node

def anonymousReference (raw : String) (children : List Node) : Parse Node :=
  Parse.element (.reference raw) .unknown children { anonymous := true }

def substitutionNode (ending : Ending) : Parse Node := do
  let name := textOf ending.content
  let node ← Parse.element
    (.substitution (squeezedName name) (writtenText ('|' :: ending.content ++ ending.marker)))
    .unknown [textNode ending.content]
  let raw := "|" ++ name ++ String.ofList ending.marker
  match ending.marker with
  | ['|', '_', '_'] => anonymousReference raw [node]
  | ['|', '_'] => nameReference raw (normalName name) [node]
  | _ => pure node

def inlineTarget (text : List Char) : Parse Node := do
  let node ← Parse.element .target .unknown [textNode text] { names := [normalName (textOf text)] }
  Parse.await (← Parse.register node true .unknown)
  pure node

def delimitedNode (kind : Delimited) (ending : Ending) : Parse Node := do
  match kind with
  | .substitution => substitutionNode ending
  | .target => inlineTarget ending.content
  | .literal => Parse.element (.span "literal") .unknown [.text (writtenText ending.content)]
  | .strong => spanNode "strong" ending.content
  | .emphasis => spanNode "emphasis" ending.content

def delimitedPiece (place : Place) (kind : Delimited) (found : Found) : Parse Piece := do
  if found.isQuoted then pure ⟨found.before ++ found.marker, [], [], found.rest⟩
  else
    match findEnd? kind [] found.rest with
    | some ending =>
        if ending.content.isEmpty then withoutEnd place kind.label found
        else pure ⟨found.before, [← delimitedNode kind ending], [], ending.rest⟩
    | none => withoutEnd place kind.label found

def referencePiece (name : List Char) (anonymous : Bool) (found : Found) : Parse Piece := do
  let raw := String.ofList found.marker
  let node ← if anonymous then anonymousReference raw [textNode name]
    else nameReference raw (normalName (String.ofList name)) [textNode name]
  pure ⟨found.before, [node], [], found.rest⟩

def citationReference (label raw : String) : Parse Node := do
  let name := normalName label
  let node ← Parse.element (.citationReference raw) .unknown [.text label] { refname := some name }
  let key := node.key?.getD 0
  let _ ← Parse.identify key "citation-reference"
  modify fun state => { state with citationReferences := addNamed name key state.citationReferences }
  Parse.noteReference name key
  pure node

def footnoteReference (label raw : String) : Parse Node := do
  let (labelling, name) : Labelling × String := match (normalName label).toList with
    | '#' :: name => (.number, String.ofList name)
    | ['*'] => (.symbol, "")
    | _ => (.written, normalName label)
  let node ← Parse.element (.footnoteReference raw) .unknown
    (if labelling = .written then [.text label] else [])
    { labelling := labelling, refname := if name.isEmpty then none else some name }
  let key := node.key?.getD 0
  let _ ← Parse.identify key "footnote-reference"
  modify fun state => match labelling with
    | .number => { state with autoReferences := state.autoReferences ++ [key] }
    | .symbol => { state with symbolReferences := state.symbolReferences ++ [key] }
    | .written => state
  if !name.isEmpty then
    modify fun state =>
      { state with footnoteReferences := addNamed name key state.footnoteReferences }
    Parse.noteReference name key
  pure node

def footnotePiece (label : List Char) (citation : Bool) (found : Found) : Parse Piece := do
  let raw := String.ofList found.marker
  let node ← if citation then citationReference (String.ofList label) raw
    else footnoteReference (String.ofList label) raw
  pure ⟨found.before, [node], [], found.rest⟩

def bracketsEscaped : Option Char → List Char → Bool
  | _, [] => true
  | last, c :: rest =>
      (!(c = '<' || c = '>') || last = some escapeMark) && bracketsEscaped (some c) rest

-- What stands in angle brackets at the end of a phrase, if anything. The text passed over comes last
-- character first.
def embeddedFrom? : List Char → List Char → Option (List Char × List Char)
  | _, [] => none
  | passed, c :: rest =>
      let link := rest.dropLast
      let spaced := match passed with
        | [] => true
        | d :: _ => d = ' ' || d = '\n'
      let startsWell := !(link.head?.map Text.isBlank).getD true
      let endsWell := match link.getLast? with
        | some d => !Text.isBlank d && d ≠ escapeMark
        | none => false
      if c = '<' && spaced && startsWell && endsWell && rest.getLast? = some '>'
          && bracketsEscaped none link then
        some ((passed.dropWhile fun d => d = ' ' || d = '\n').reverse, link)
      else embeddedFrom? (c :: passed) rest

def embeddedLink? (text : List Char) : Option (List Char × List Char) :=
  if text.getLast? = some '>' then embeddedFrom? [] text else none

def splitEscapedBlank : List Char → List Char → List (List Char)
  | done, [] => [done.reverse]
  | done, [c] => [(c :: done).reverse]
  | done, c :: d :: rest =>
      if c = escapeMark && (d = ' ' || d = '\n') then done.reverse :: splitEscapedBlank [] rest
      else splitEscapedBlank (c :: done) (d :: rest)

def embeddedAddress (link : List Char) : String :=
  -- White space in an address counts only if it is escaped.
  let parts := (splitEscapedBlank [] link).map fun part => part.filter fun c => !Text.isBlank c
  let address := Address.full (dropEscapes (parts.intersperse [' '] |>.flatten))
  if Text.endsWith ['\\', '_'] address.toList then
    String.ofList (address.toList.take (address.length - 2) ++ ['_'])
  else address

def embeddedReference (raw : String) (anonymous : Bool) (text link : List Char) : Parse (List Node) := do
  let toName := link.getLast? = some '_' && !Text.endsWith [escapeMark, '_'] link
    && !Address.starts link
  let target := if toName then normalName (textOf link.dropLast) else embeddedAddress link
  let shown := if text.isEmpty then target.toList else text
  let name := normalName (textOf shown)
  let reference ← if toName then nameReference raw target [textNode shown]
    else Parse.element (.reference raw) .unknown [textNode shown] { refuri := some target }
  if anonymous then pure [reference]
  else if toName then
    let node ← Parse.element .target .unknown [] { names := [name], refname := some target }
    let key := node.key?.getD 0
    modify fun state => { state with indirectTargets := state.indirectTargets ++ [key] }
    Parse.noteReference target key
    pure [reference, node]
  else
    let node ← Parse.element .target .unknown []
      { names := [name], refuri := some target, referenced := true }
    Parse.await (← Parse.register node true .unknown)
    pure [reference, node]

def phrasePiece (before : List Char) (ending : InterpretedEnding) : Parse Piece := do
  let anonymous := ending.underscores = 2
  let raw := writtenText ('\x60' :: ending.content ++ ending.marker)
  let nodes ← match embeddedLink? ending.content with
    | some (text, link) => embeddedReference raw anonymous text link
    | none => do
        let children := [textNode ending.content]
        pure [← if anonymous then anonymousReference raw children
          else nameReference raw (normalName (textOf ending.content)) children]
  pure ⟨before, nodes, [], ending.rest⟩

def phraseLabel : String := "interpreted text or phrase reference"

def rolePiece (place : Place) (found : Found) (ending : InterpretedEnding) (role : String)
    (raw : List Char) : Parse Piece := do
  let (kind?, lookupMessages) ← lookupRole place role
  match kind? with
  | some kind =>
      let (nodes, messages) ← applyRole place kind role ending.content raw
      pure ⟨found.before, nodes, lookupMessages ++ messages, ending.rest⟩
  | none =>
      Parse.report .error place ("Unknown interpreted text role \"" ++ role ++ "\".")
      pure ⟨found.before, [← problematic raw], lookupMessages ++ [Node.message], ending.rest⟩

def interpretedPiece (place : Place) (role : List Char) (found : Found) : Parse Piece := do
  let plainStart := role.isEmpty
  if plainStart && found.isQuoted then pure ⟨found.before ++ found.marker, [], [], found.rest⟩
  else
    match findInterpretedEnd? [] found.rest with
    | none => withoutEnd place phraseLabel found
    | some ending =>
        let raw := found.marker ++ ending.content ++ ending.marker
        let refuse (text : String) : Parse Piece := do
          Parse.report .warning place text
          pure ⟨found.before, [← problematic raw], [Node.message], ending.rest⟩
        if ending.content.isEmpty then withoutEnd place phraseLabel found
        else if !ending.role.isEmpty && !plainStart then
          refuse ("Multiple roles in interpreted text (both prefix and suffix present; only one "
            ++ "allowed).")
        else
          let given := if ending.role.isEmpty then role else ending.role
          if ending.underscores = 0 then rolePiece place found ending (String.ofList given) raw
          else if given.isEmpty then phrasePiece found.before ending
          else refuse ("Mismatch: both interpreted text role "
            ++ (if plainStart then "suffix" else "prefix") ++ " and reference suffix.")

def piece (place : Place) (found : Found) : Parse Piece :=
  match found.start with
  | .delimited kind => delimitedPiece place kind found
  | .reference name anonymous => referencePiece name anonymous found
  | .footnote label citation => footnotePiece label citation found
  | .interpreted role => interpretedPiece place role found

def plainNodes (text : List Char) : List Node := if text.isEmpty then [] else [textNode text]

-- Reads the markup in a text, piece by piece. Each piece takes at least one character.
def spans (place : Place) : Nat → List Char → Parse (List Node × List Node)
  | 0, text => pure (plainNodes text, [])
  | fuel + 1, text =>
      match findStart? [] text with
      | none => pure (plainNodes text, [])
      | some found => do
          let made ← piece place found
          let (nodes, messages) ← spans place fuel made.rest
          pure (plainNodes made.before ++ made.nodes ++ nodes, made.messages ++ messages)

def inlineText (place : Place) (text : List Char) : Parse (List Node × List Node) :=
  let marked := markEscapes text
  spans place (marked.length + 1) marked

end MarkupLint.Markup
