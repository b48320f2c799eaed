import MarkupLint.Markup.Directive.Call
import MarkupLint.Markup.Target

set_option autoImplicit false

namespace MarkupLint.Markup.Directive

def alignmentFault? (call : Call) : Option String :=
  (call.text? "align").bind fun text =>
    let value := Text.strip (Text.toLower text)
    let (values, context) : List String × String := if call.definition.isSome
      then (upright, " within a substitution definition") else (sideways, "")
    if values.contains value then none
    else some ("Error in \"" ++ call.name ++ "\" directive: \"" ++ value
      ++ "\" is not a valid value for the \"align\" option" ++ context
      ++ ".  Valid values for \"align\" are: " ++ String.intercalate ", " (values.map fun one =>
        "\"" ++ one ++ "\"") ++ ".")

def imageNode (call : Call) : Parse Node := do
  let reference? ← match call.text? "target" with
    | none => pure none
    | some text => do
        match leadOf ((Text.splitLines (markEscapes text.toList))) with
        | .address address =>
            pure (some (← Parse.element (.reference "") .unknown [] { refuri := some address }))
        | .name name => do
            let name := normalName name
            let node ← Parse.element (.reference "") .unknown [] { refname := some name }
            Parse.noteReference name (node.key?.getD 0)
            pure (some node)
  let image ← Parse.element (.span "image") call.place [] { classes := call.classes }
  let image ← call.named image
  match reference? with
  | some reference => pure (reference.withChildren [image])
  | none => pure image

def image (call : Call) : Parse (List Node) := do
  match alignmentFault? call with
  | some fault => call.refuse .error fault
  | none => pure [← imageNode call]

def figure (call : Call) : Parse (List Node) := do
  let image ← imageNode call
  let node ← Parse.element (.group "figure") call.place [image] { classes := call.classes "figclass" }
  let node ← call.named node "figname"
  if call.content.isEmpty then pure [node]
  else
    let read ← call.reader.nested call.content
    -- The first block of the content is the caption, or an empty comment if there is none.
    match read with
    | [] => throw .noCaption
    | first :: others =>
        let legend ← if others.isEmpty then pure [] else do pure [← Parse.group "legend" .unknown others]
        match first with
        | .element _ (.paragraph _) place children => do
            let caption ← Parse.element (.textBlock "caption") place children
            pure [node.withChildren (node.children ++ caption :: legend)]
        | .element _ (.comment true) _ _ => pure [node.withChildren (node.children ++ legend)]
        | _ => do
            Parse.drop read
            let refused ← call.complain .error "Figure caption must be a paragraph or empty comment."
            pure (node :: refused)

end MarkupLint.Markup.Directive
