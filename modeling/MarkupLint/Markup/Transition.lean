import MarkupLint.Markup.State

set_option autoImplicit false

namespace MarkupLint.Markup

def hasKind (kind : Element) (node : Option Node) : Bool := (node.bind (·.kind?)) = some kind

def transitionErrors (state : Reading) (siblings : List Node) (index : Nat) (place : Place) (last : Bool) :
    List Message :=
  let first := index = 0 || (hasKind .title siblings[0]?
    && (index = 1 || (index = 2 && hasKind .subtitle siblings[1]?)))
  let start : List Message :=
    if first then [⟨.error, place, "Document or section may not begin with a transition.", []⟩]
    else if hasKind .transition siblings[index - 1]? then
      [⟨.error, place, "At least one body element must separate transitions; adjacent transitions "
        ++ "are not allowed.", []⟩]
    else []
  let finish : List Message :=
    if last && index + 1 = siblings.length then
      [⟨.error, state.lineOrMain place.line, "Document may not end with a transition.", []⟩]
    else []
  start ++ finish

mutual

-- The errors about transitions in a node. `last` tells that nothing follows its parent.
def transitionsIn (state : Reading) (siblings : List Node) (index : Nat) (last : Bool) :
    Node → List Message
  | .element _ .transition place _ => transitionErrors state siblings index place last
  | .element _ .section _ children =>
      transitionsAmong state children (last && index + 1 = siblings.length) 0 children
  | _ => []

def transitionsAmong (state : Reading) (siblings : List Node) (last : Bool) :
    Nat → List Node → List Message
  | _, [] => []
  | index, node :: rest =>
      transitionsIn state siblings index last node
        ++ transitionsAmong state siblings last (index + 1) rest

end

def checkTransitions (state : Reading) : Reading :=
  (transitionsAmong state state.tree true 0 state.tree).foldl Reading.tell state

end MarkupLint.Markup
