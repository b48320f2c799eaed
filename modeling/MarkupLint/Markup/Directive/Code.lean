import MarkupLint.Markup.Directive.Call
import MarkupLint.Text.Quoted

set_option autoImplicit false

namespace MarkupLint.Markup.Directive

def plainCode (call : Call) : Parse (List Node) := do
  let text := blockText call.content
  let node ← Parse.element
    (.literalBlock text [preserved, ("language", .text call.argument)]) .unknown [.text text]
    { classes := ["code-block"] }
  pure [node]

def misnumbered (call : Call) : Bool :=
  match call.text? "number-lines" with
  | some text => !text.isEmpty && (OptionValue.integer? text).isNone
  | none => false

def classedLines (call : Call) (language : String) (lines : List Line) (extra : Attributes) :
    Parse (List Node) := do
  if !isHighlighted language && (← get).reportRank ≤ 2 then
    call.refuse .warning ("Cannot analyze code. No Pygments lexer found for \"" ++ language ++ "\".")
  else if misnumbered call then call.refuse .error ":number-lines: with non-integer start value"
  else
    let text := blockText lines
    let node ← Parse.element (.literalBlock text (preserved :: extra)) .unknown [.text text]
      { classes := "code" :: (if language.isEmpty then [] else [language]) ++ call.classes }
    pure [← call.named node]

def classedCode (call : Call) : Parse (List Node) :=
  call.withContent (classedLines call call.argument call.content [])

def projectAttributes (language : String) (numbered : Bool) : Attributes :=
  [preserved, ("force", .other), ("language", .text language), ("highlight_args", .other)]
    ++ if numbered then [("linenos", .other)] else []

def projectCode (call : Call) : Parse (List Node) :=
  call.withContent do
    let text := blockText call.content
    let attributes := projectAttributes call.argument (call.has "number-lines")
    let node ← Parse.element (.literalBlock text attributes) .unknown [.text text]
      { classes := call.classes }
    let node ← call.named node
    -- The language comes from the project when none is given, which is not at hand.
    if call.arguments.isEmpty then throw .noProjectEnvironment
    pure [node.withPlace call.place]

def isLineRow (text : String) (total : Int) : Bool :=
  (Text.splitOnChar ',' text.toList).all fun part =>
    let ends := (Text.splitOnChar '-' (Text.trim part)).map fun bound =>
      if bound.isEmpty then none else some (OptionValue.integer? (String.ofList bound))
    match ends with
    | [some (some _)] => true
    | [none, none] => false
    | [first, last] =>
        match first.getD (some 1) with
        | none => false
        | some start =>
            match last.getD (some (max start total)) with
            | none => false
            | some stop =>
                decide (start ≤ stop)
    | _ => false

def withoutShared (lines : List Line) : List Line :=
  let spaces (line : Line) : Nat := (line.text.takeWhile (· = ' ')).length
  match (lines.filter fun line => line.text.any (· ≠ ' ')).map spaces with
  | [] => lines.map fun line => { line with text := [] }
  | first :: others => lines.map (·.drop (others.foldl min first))

def dedented (call : Call) : List Line :=
  match call.options.lookup "dedent" with
  | none => call.content
  | some none => withoutShared call.content
  | some (some text) => call.content.map (·.drop ((OptionValue.count? text).getD 0))

def captioned (call : Call) (literal : Node) (caption : String) : Parse (List Node) := do
  let before := (← get).messages.length
  let read ← call.reader.nested [⟨caption.toList, ⟨some "", some 1⟩, call.contentReported⟩]
  match read with
  | [] => throw .noCaption
  | first :: _ =>
      if first.isMessage then
        let state ← get
        let told := state.messages.reverse[before]?.map fun message =>
          Text.trimRight (message.render state.origin).toList
        call.refuse .warning ("Invalid caption: " ++ String.ofList (told.getD []))
      else
        let node ← Parse.element (.textBlock "caption") literal.place first.children
        let group ← Parse.group "container" .unknown [node, literal]
        pure [← call.named group]

def projectCodeBlock (call : Call) : Parse (List Node) := do
  match (call.text? "emphasize-lines").filter fun spec =>
      !spec.isEmpty && !isLineRow spec call.content.length with
  | some spec => call.refuse .warning ("invalid line number spec: " ++ Text.quote spec)
  | none =>
      if call.arguments.isEmpty then throw .noProjectEnvironment
      let text := blockText (dedented call)
      let attributes := projectAttributes call.argument (call.has "linenos" || call.has "lineno-start")
      let node ← Parse.element (.literalBlock text attributes) call.place [.text text]
        { classes := call.classes }
      match (call.text? "caption").filter fun caption => !caption.isEmpty with
      | some caption => captioned call node caption
      | none => pure [← call.named node]

end MarkupLint.Markup.Directive
