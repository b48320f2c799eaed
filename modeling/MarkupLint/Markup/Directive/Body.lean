import MarkupLint.Markup.Directive.Call

set_option autoImplicit false

namespace MarkupLint.Markup.Directive

def holdBlocks (call : Call) (kind : String) (place : Place) (classes : List String) (first : List Node)
    (context : Context := {}) : Parse (List Node) := do
  let node ← Parse.element (.group kind) .unknown first { classes := classes }
  let node ← call.named node
  let children ← call.reader.read context call.content
  pure [(node.withPlace place).withChildren (node.children ++ children)]

def admonition (call : Call) : Parse (List Node) :=
  call.withContent (holdBlocks call call.name call.place call.classes [])

def titledAdmonition (call : Call) : Parse (List Node) :=
  call.withContent do
    let node ← Parse.element (.group "admonition") .unknown [] { classes := call.classes }
    let node ← call.named node
    let (nodes, messages) ← call.inline call.argument
    let title ← Parse.element .title call.place nodes
    let children ← call.reader.nested call.content
    pure [(node.withPlace call.place).withChildren (node.children ++ title :: messages ++ children)]

def standsAside (call : Call) : Bool := call.reader.context.titles || call.reader.context.inSidebar

def refuseAside (call : Call) : Parse (List Node) :=
  call.refuse .error ("The \"" ++ call.name
    ++ "\" directive may not be used within topics or body elements.")

def topic (call : Call) (kind : String := "topic") (context : Context := {}) : Parse (List Node) :=
  if !standsAside call then refuseAside call
  else
    call.withContent do
      let heading ← if call.arguments.isEmpty then pure []
        else do
          let (nodes, messages) ← call.inline call.argument
          let title ← Parse.element .title .unknown nodes
          match call.text? "subtitle" with
          | none => pure (title :: messages)
          | some text => do
              let (nodes, more) ← call.inline text
              let subtitle ← Parse.element .subtitle .unknown nodes
              pure (title :: subtitle :: messages ++ more)
      holdBlocks call kind .unknown call.classes heading context

def sidebar (call : Call) : Parse (List Node) :=
  if call.reader.context.inSidebar then
    call.refuse .error ("The \"" ++ call.name ++ "\" directive may not be used within a sidebar element.")
  else if call.has "subtitle" && call.arguments.isEmpty then
    call.refuse .error "The \"subtitle\" option may not be used without a title."
  else topic call "sidebar" { inSidebar := true }

def compound (call : Call) : Parse (List Node) :=
  call.withContent (holdBlocks call "compound" .unknown call.classes [])

def invalidClass (call : Call) : Parse (List Node) :=
  call.refuse .error ("Invalid class attribute value for \"" ++ call.name ++ "\" directive: \""
    ++ call.argument ++ "\".")

def container (call : Call) : Parse (List Node) :=
  call.withContent do
    match if call.arguments.isEmpty then some [] else OptionValue.classes? call.argument with
    | none => invalidClass call
    | some classes => holdBlocks call "container" .unknown classes []

def quotes (call : Call) : Parse (List Node) :=
  call.withContent (blockQuotes call.reader (call.content.length + 1) call.content)

-- Lines that are kept apart. Messages about their markup count the lines of the content on from the line of
-- the directive.
def lines (call : Call) : Parse (List Node) :=
  call.withContent do
    let block ← call.named (← Parse.element (.group "line_block") .unknown [] { classes := call.classes })
    let start := call.reported.down ((call.contentReported.line.getD 1) - 1)
    let read ← call.content.zipIdx.mapM fun (line, count) => do
      let (nodes, messages) ← inlineText (start.down count) (Text.trim line.text)
      let node ← Parse.element (.textBlock "line") .unknown nodes
      pure (node, messages)
    pure (block.withChildren (block.children ++ read.map (·.1)) :: read.flatMap (·.2))

def parsedLiteral (call : Call) : Parse (List Node) :=
  call.withContent do
    let text := blockText call.content
    let (nodes, messages) ← call.inline text
    let node ← Parse.element (.literalBlock text [preserved]) { call.contentReported with source := none }
      nodes { classes := call.classes }
    pure ((← call.named node) :: messages)

def runs : List Line → List (List Line)
  | [] => []
  | line :: rest =>
      if line.isBlank then runs rest
      else
        match rest, runs rest with
        | next :: _, run :: others => if next.isBlank then [line] :: run :: others else (line :: run) :: others
        | _, others => [line] :: others

def formulas (call : Call) : Parse (List Node) :=
  call.withContent do
    let nodes ← (runs call.content).mapM fun run =>
      Parse.element (.textBlock "math_block") call.place [.text (blockText run)]
        { classes := call.classes }
    match nodes with
    | [] => pure []
    | first :: others => pure ((← call.named first) :: others)

def rubric (call : Call) : Parse (List Node) := do
  let (nodes, messages) ← call.inline call.argument
  let node ← Parse.element (.textBlock "rubric") .unknown nodes { classes := call.classes }
  pure ((← call.named node) :: messages)

end MarkupLint.Markup.Directive
