import MarkupLint.Markup.Directive.Body
import MarkupLint.Text.Quoted

set_option autoImplicit false

namespace MarkupLint.Markup.Directive

def contentsTitle : String := "Contents"

def contents (call : Call) : Parse (List Node) := do
  if !standsAside call then refuseAside call
  else
    let (title, messages) ← if call.arguments.isEmpty then
        pure (if call.has "local" then [] else [Node.text contentsTitle], [])
      else call.inline call.argument
    let heading ← if title.isEmpty then pure [] else do pure [← Parse.element .title .unknown title]
    let name := normalName (if heading.isEmpty then contentsTitle else Node.contentOfAll title)
    let known := ((← get).names.lookup name).isSome
    let place := call.lastPlace.down (-1)
    let topic ← Parse.element (.group "topic") place heading
      { classes := ["contents"] ++ call.classes ++ (if call.has "local" then ["local"] else [])
        names := if known then [] else [name] }
    let _ ← Parse.register topic false place
    let pending ← Parse.postpone (.listContents (call.has "local")) .unknown
    pure (topic.withChildren (heading ++ [pending]) :: messages)

def numberSections (_ : Call) : Parse (List Node) := do
  pure [← Parse.postpone .numberSections .unknown]

def targetNotes (call : Call) : Parse (List Node) := do
  pure [← call.named (← Parse.postpone .noteTargets .unknown)]

def header (call : Call) : Parse (List Node) :=
  call.withContent do
    let nodes ← call.reader.read { attached := true } call.content
    modify fun state => { state with headers := state.headers ++ nodes }
    pure []

def footer (call : Call) : Parse (List Node) :=
  call.withContent do
    let nodes ← call.reader.read { attached := true } call.content
    modify fun state => { state with footers := state.footers ++ nodes }
    pure []

def pairFault? (text : List Char) : Option String :=
  match Text.cut? ['='] text with
  | none => some "missing \"=\""
  | some (name, value) =>
      if (Text.trim name).isEmpty then some "missing attribute name before \"=\""
      else
        let label := "\"" ++ String.ofList (Text.trim name)
        match Text.trimLeft value with
        | [] => some ("missing value after " ++ label ++ "=\"")
        | c :: rest =>
            if c = '\'' || c = '"' then
              let mark := "(" ++ c.toString ++ ")"
              match Text.cut? [c] rest with
              | none => some ("attribute " ++ label ++ "\" missing end quote " ++ mark)
              | some (_, after) =>
                  if after.isEmpty then none
                  else some ("attribute " ++ label ++ "\" end quote " ++ mark
                    ++ " not followed by whitespace")
            else none

def metaField (name : List Char) (block : List Line) : Parse Node := do
  let name := dropEscapes (markEscapes name)
  let tell (severity : Severity) (text : String) : Parse Node := do
    -- Messages about a field are given where the outermost reader stands.
    Parse.reportNear severity .unknown text
    pure Node.message
  if (dropLeadingBlank block).isEmpty then
    tell .info ("No content for meta tag \"" ++ String.ofList name ++ "\".")
  else
    let faults := ((words name).drop 1).filterMap fun token => (pairFault? token).map fun fault =>
      "Error parsing meta tag attribute \"" ++ String.ofList token ++ "\": " ++ fault ++ "."
    match faults with
    | fault :: _ => tell .error fault
    | [] => Parse.group "meta" .unknown []

def metaFields : Nat → List Line → Parse (List Node × Bool)
  | 0, _ => pure ([], true)
  | fuel + 1, lines => do
      match dropLeadingBlank lines with
      | [] => pure ([], true)
      | first :: rest =>
          match field? first.text with
          | none => pure ([], false)
          | some (name, column) =>
              let cut := cutFirstKnown column false false (first :: rest)
              let node ← metaField name cut.block
              let (nodes, whole) ← metaFields fuel cut.rest
              pure (node :: nodes, whole)

def metaData (call : Call) : Parse (List Node) :=
  call.withContent do
    let (nodes, whole) ← metaFields (call.content.length + 1) call.content
    let marks ← if whole then pure [] else call.complain .error "Invalid meta directive."
    modify fun state => { state with metas := nodes ++ marks ++ state.metas }
    pure []

def showCall (call : Call) : Parse (List Node) := do
  let options := call.options.map fun (name, value) => Text.quote name ++ ": " ++ Text.quote (value.getD "")
  let start := "Directive processed. Type=\"" ++ call.name ++ "\", arguments="
    ++ Text.quoteList call.arguments ++ ", options=\x7b" ++ String.intercalate ", " options ++ "\x7d, content:"
  if call.content.isEmpty then call.refuse .info (start ++ " None")
  else do
    Parse.report .info call.reported start [blockText call.content]
    pure [Node.message]

end MarkupLint.Markup.Directive
