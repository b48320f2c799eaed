import MarkupLint.Markup.Directive.Body

set_option autoImplicit false

namespace MarkupLint.Markup.Directive

def roleDefinition? (text : List Char) : Option (String × String) :=
  let name := simpleNameOf text
  let rest := Text.trim (text.drop name.length)
  if name.isEmpty then none
  else
    match rest with
    | [] => some (String.ofList name, "")
    | '(' :: inner =>
        let inner := Text.trimLeft inner
        let base := simpleNameOf inner
        if !base.isEmpty && Text.trim (inner.drop base.length) = [')'] then
          some (String.ofList name, String.ofList base)
        else none
    | _ => none

def roleForm : RoleKind → DirectiveForm
  | .builtIn "code" _ => { options := some [("class", .classes), ("language", .text)] }
  | .builtIn "raw" _ => { options := some [("class", .classes), ("format", .text)] }
  | _ => { options := some [("class", .classes)] }

def withRoleOptions (call : Call) : RoleKind → RoleKind
  | .builtIn name options =>
      .builtIn name
        { language := (call.text? "language").orElse fun _ => options.language
          format := (call.text? "format").orElse fun _ => options.format }
  | kind => kind

def unknownRole (call : Call) (name : String) : Parse (List Node) :=
  call.complain .error ("Unknown interpreted text role \"" ++ name ++ "\".")

def registerRole (call : Call) (name : String) (base : RoleKind) : Parse (List Node) := do
  match ← readParts (roleForm base) (call.content.drop 1) with
  | .error fault =>
      call.complain .error ("Error in \"" ++ call.name ++ "\" directive:\n" ++ fault.message ++ ".")
  | .ok parts =>
      let call := { call with options := parts.options }
      let messages ← if call.has "class" || (OptionValue.classes? name).isSome then pure []
        else call.complain .error ("Invalid argument for \"" ++ call.name ++ "\" directive:\ncannot make \""
          ++ name ++ "\" into a class name.")
      modify fun state =>
        { state with registry := state.registry.setRole name (withRoleOptions call base) }
      pure messages

def role (call : Call) : Parse (List Node) := do
  let onFirstLine := match call.contentReported.line, call.reported.line with
    | some content, some own => decide (content ≤ own + 1)
    | _, _ => true
  match if onFirstLine then call.content.head? else none with
  | none =>
      call.refuse .error ("\"" ++ call.name ++ "\" directive requires arguments on the first line.")
  | some first =>
      match roleDefinition? first.text with
      | none =>
          call.refuse .error ("\"" ++ call.name ++ "\" directive arguments not valid role names: \""
            ++ String.ofList first.text ++ "\".")
      | some (name, "") => registerRole call name (.builtIn plainRole)
      | some (name, base) =>
          let (kind?, messages) ← lookupRole call.reported base
          let more ← match kind? with
            | some kind => registerRole call name kind
            | none => unknownRole call base
          pure (messages ++ more)

def defaultRole (call : Call) : Parse (List Node) := do
  match call.arguments with
  | [] =>
      modify fun state => { state with registry := state.registry.clearDefaultRole }
      pure []
  | name :: _ =>
      let (kind?, messages) ← lookupRole call.reported name
      match kind? with
      | some kind =>
          modify fun state => { state with registry := state.registry.setRole "" kind }
          pure messages
      | none => pure (messages ++ (← unknownRole call name))

def classes (call : Call) : Parse (List Node) := do
  match OptionValue.classes? call.argument with
  | none => invalidClass call
  | some names =>
      if call.content.isEmpty then
        pure [← Parse.postpone (.setClasses names call.name call.blockText) .unknown]
      else
        let nodes ← call.reader.nested call.content
        nodes.forM fun node => match node.key? with
          | some key => if node.isMessage then pure () else
              Parse.updateFacts key fun facts => { facts with classes := facts.classes ++ names }
          | none => pure ()
        pure nodes

end MarkupLint.Markup.Directive
