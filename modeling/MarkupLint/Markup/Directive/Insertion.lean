import MarkupLint.Markup.Directive.Code
import MarkupLint.Markup.Directive.Source
import MarkupLint.Markup.Entities
import MarkupLint.Markup.Target

set_option autoImplicit false

namespace MarkupLint.Markup.Directive

def inDefinition (call : Call) (action : Parse (List Node)) : Parse (List Node) :=
  if call.definition.isSome then action
  else call.refuse .error ("Invalid context: the \"" ++ call.name
    ++ "\" directive can only be used within a substitution definition.")

def replace (call : Call) : Parse (List Node) :=
  inDefinition call <| call.withContent do
    let read ← call.reader.nested call.content
    match read.filter fun node => !node.isMessage with
    | [] => pure read
    | [only] =>
        if only.isParagraph then pure (read.filter (·.isMessage) ++ only.children) else refused
    | _ => refused
where
  refused : Parse (List Node) :=
    call.refuse .error ("Error in \"" ++ call.name ++ "\" directive: may contain a single paragraph only.")

def wordsBeforeComment (text : List Char) : List (List Char) :=
  words (beforeComment true text)
where
  beforeComment : Bool → List Char → List Char
    | _, [] => []
    | gap, c :: rest =>
        if gap && Text.startsWith ".. ".toList (c :: rest) then []
        else c :: beforeComment (c = ' ' || c = '\n') rest

def characters (call : Call) : Parse (List Node) :=
  inDefinition call do
    let codes := wordsBeforeComment call.argument.toList
    let texts := codes.map fun code => (code, OptionValue.codeText? (String.ofList code))
    match texts.find? fun (_, text) => text.isNone with
    | some (code, _) => call.refuse .error ("Invalid character code: " ++ String.ofList code)
    | none => pure (texts.map fun (_, text) => .text (String.ofList (text.getD [])))

def date (call : Call) : Parse (List Node) :=
  inDefinition call (pure [.text (blockText call.content)])

def rawNode (call : Call) (text : String) : Parse (List Node) := do
  pure [← Parse.element (.span "raw") call.place [.text text] { classes := call.classes }]

def hasScheme (address : String) : Bool :=
  let scheme := address.toList.takeWhile fun c => c ≠ '/' && c ≠ ':'
  !scheme.isEmpty && (address.toList.drop scheme.length).head? = some ':'

def raw (call : Call) : Parse (List Node) := do
  match call.text? "file", call.text? "url" with
  | some file, url =>
      if !call.content.isEmpty then bothGiven
      else if url.isSome then
        call.refuse .error ("The \"file\" and \"url\" options may not be simultaneously specified for the \""
          ++ call.name ++ "\" directive.")
      else
        match (← readBeside call (joinedPath file)).2 with
        | .ok text => rawNode call (String.ofList text)
        | .error .unreachable =>
            call.refuse .severe ("Problems with \"" ++ call.name ++ "\" directive path:")
        | .error .undecodable => call.refuse .severe ("Problem with \"" ++ call.name ++ "\" directive:")
  | none, some address =>
      if !call.content.isEmpty then bothGiven
      else
        let address := plainAddress (markEscapes address.toList)
        if hasScheme address then
          call.refuse .severe ("Problems with \"" ++ call.name ++ "\" directive URL \"" ++ address ++ "\":")
        else throw (.unknownAddress address)
  | none, none => call.withContent (rawNode call (blockText call.content))
where
  bothGiven : Parse (List Node) :=
    call.refuse .error ("\"" ++ call.name
      ++ "\" directive may not both specify an external file and have content.")

structure Outcome where
  nodes : List Node := []
  inserted : List Line := []

-- The part of a row between two bounds, which count from the end if they are negative.
def slice {α : Type} (first last : Option Int) (row : List α) : List α :=
  let bound (value : Int) : Nat :=
    (if value < 0 then max 0 (value + row.length) else min value row.length).toNat
  let start := (first.map bound).getD 0
  let stop := (last.map bound).getD row.length
  (row.drop start).take (stop - start)

def feedLines (text : List Char) : List (List Char) :=
  match Text.splitOnChar '\n' text with
  | parts =>
      let lines := parts.dropLast.map (· ++ ['\n'])
      match parts.getLast? with
      | some [] | none => lines
      | some last => lines ++ [last]

inductive ClipFault where
  | noStart
  | noEnd
deriving DecidableEq, Repr

def clipOf (call : Call) : Clip :=
  let number (option : String) : Option Int := (call.text? option).bind OptionValue.integer?
  { firstLine := number "start-line", lastLine := number "end-line"
    after := call.text? "start-after", before := call.text? "end-before" }

def clipText (clip : Clip) (text : List Char) : Except ClipFault (List Char) := do
  let text := if (clip.firstLine.map (· != 0)).getD false || clip.lastLine.isSome then
      (slice clip.firstLine clip.lastLine (feedLines text)).flatten
    else text
  let text ← match clip.after.filter fun mark => !mark.isEmpty with
    | none => pure text
    | some mark =>
        match Text.cut? mark.toList text with
        | some (_, after) => pure after
        | none => throw .noStart
  match clip.before.filter fun mark => !mark.isEmpty with
  | none => pure text
  | some mark =>
      match Text.cut? mark.toList text with
      | some (before, _) => pure before
      | none => throw .noEnd

def inclusionEnd (path : String) : String := ".. end of inclusion from \"" ++ path ++ "\""

def inclusionEndStart : List Char := "end of inclusion from \"".toList

def insertedLines (path : String) (texts : List (List Char)) : List Line :=
  let marked := texts ++ [[], (inclusionEnd path).toList]
  let before : Line := .written ⟨some ("internal padding before " ++ path), some 0⟩ []
  let after : Line :=
    .written ⟨some ("internal padding after " ++ path), some ((marked.length : Int) + 1)⟩ []
  before :: placeLines path marked ++ [after]

def literalFile (call : Call) (path : String) (text : List Char) : Parse Outcome := do
  let content := String.ofList text
  let node ← Parse.element (.literalBlock content [preserved, ("source", .text path)]) (.ofLine 1)
    [.text content] { classes := call.classes }
  let node ← call.named node
  if misnumbered call then
    pure { nodes := ← call.refuse .error ":number-lines: with non-integer start value" }
  else pure { nodes := [node] }

def enter (call : Call) (path : String) (clip : Clip) (texts : List (List Char)) : Parse Outcome := do
  let state ← get
  let current := state.current.source.getD state.origin
  let log : List Inclusion := if state.inclusions.isEmpty then
      [⟨state.files.fromHere (.ofString current), {}⟩]
    else state.inclusions
  set { state with inclusions := log }
  if log.contains ⟨path, clip⟩ then
    pure { nodes := ← call.refuse .warning ("circular inclusion in \"" ++ call.name ++ "\" directive:\n"
      ++ String.intercalate "\n> " (path :: log.reverse.map (·.path))) }
  else if call.has "parser" then pure {}
  else
    let entered : Inclusion := ⟨path, clip⟩
    set { state with inclusions := log ++ [entered] }
    pure { inserted := insertedLines path texts }

def includedText (call : Call) : Parse (String × Except FileFault (List Char)) := do
  let target := joinedPath call.argument
  match target.toList with
  | '<' :: inner =>
      if inner.getLast? = some '>' then
        let name := String.ofList inner.dropLast
        let text := match standardFile? name with
          | some text => .ok text.toList
          | none => .error .unreachable
        pure ("/" ++ standardDirectory ++ "/" ++ name, text)
      else readBeside call target
  | _ => readBeside call target

def inclusion (call : Call) : Parse Outcome := do
  let refuse (severity : Severity) (text : String) : Parse Outcome := do
    pure { nodes := ← call.refuse severity text }
  let (path, read) ← includedText call
  match read with
  | .error .unreachable => refuse .severe ("Problems with \"" ++ call.name ++ "\" directive path:")
  | .error .undecodable => refuse .severe ("Problem with \"" ++ call.name ++ "\" directive:")
  | .ok text =>
      let clip := clipOf call
      let missing (option : String) : Parse Outcome :=
        refuse .severe ("Problem with \"" ++ option ++ "\" option of \"" ++ call.name
          ++ "\" directive:\nText not found.")
      match clipText clip text with
      | .error .noStart => missing "start-after"
      | .error .noEnd => missing "end-before"
      | .ok text =>
          let tabWidth := ((call.text? "tab-width").bind OptionValue.integer?).getD 8
          let texts := readableLines tabWidth.toNat text
          match texts.zipIdx.find? fun (line, _) => lineLimit < line.length with
          | some (_, place) =>
              refuse .warning ("\"" ++ path ++ "\": line " ++ toString (place + 1)
                ++ " exceeds the line-length-limit.")
          | none =>
              if call.has "literal" then literalFile call path text
              else
                match call.text? "code" with
                | some language =>
                    let lines := if tabWidth < 0 then Text.splitLines text else texts
                    let call := { call with content := placeLines path lines }
                    let nodes ← call.withContent
                      (classedLines call language call.content [("source", .text path)])
                    pure { nodes := nodes }
                | none => enter call path clip texts

end MarkupLint.Markup.Directive
