import MarkupLint.Markup.Directive

set_option autoImplicit false

namespace MarkupLint.Markup

def setClasses (key : Nat) (classes : List String) (directive blockText : String) : Parse Unit := do
  let state ← get
  match state.find? key with
  | none => pure ()
  | some (pending, _) =>
      let followers := ((Node.followers? key [] state.tree).orElse fun _ =>
        Node.followers? key [] state.dropped).getD []
      match (followers.find? fun node => !node.isInvisible && !node.isMessage).bind (·.key?) with
      | some next =>
          Parse.updateFacts next fun facts => { facts with classes := facts.classes ++ classes }
          modify fun state => state.replaceNode key []
      | none =>
          Parse.report .error (state.lineOrMain pending.place.line)
            ("No suitable element following \"" ++ directive ++ "\" directive") [blockText]
          modify fun state => state.replaceNode key [Node.message]

def setAllClasses : Parse Unit := do
  (← get).tasks.forM fun pending => match pending.task with
    | .setClasses classes directive blockText => setClasses pending.key classes directive blockText
    | _ => pure ()

def isOpenTarget (state : Reading) (visit : Node.Visit) : Bool :=
  let facts := state.factsOf visit.key
  visit.kind = .target && !((visit.parent.map (·.holdsText)).getD false)
    && facts.refuri.isNone && facts.refid.isNone && facts.refname.isNone

def takesNames : Element → Bool
  | .target => true
  | .footnote => false
  | .citation => false
  | kind => !kind.isInvisible

def moveNames (state : Reading) (key next : Nat) : Reading :=
  let facts := state.factsOf key
  let state := state.updateFacts next fun other =>
    { other with
      ids := other.ids ++ facts.ids
      names := other.names ++ facts.names
      movedIds := other.movedIds ++ facts.movedIds ++ facts.ids.map fun id => (id, key)
      movedNames := other.movedNames ++ facts.movedNames ++ facts.names.map fun name => (name, key) }
  let id := facts.ids.headD ""
  let state := state.updateFacts key fun facts => { facts with refid := some id, ids := [], names := [] }
  { state with
    ids := facts.ids.foldl (fun ids id => putNamed id next ids) state.ids
    idReferences := addNamed id key state.idReferences }

def propagateTargets (state : Reading) : Reading :=
  (Node.visits state.tree).foldl
    (fun state visit =>
      if isOpenTarget state visit then
        let followers := (Node.followers? visit.key [] state.tree).getD []
        match followers.find? fun node => !node.isMessage with
        | some (.element next kind _ _) =>
            if takesNames kind then moveNames state visit.key next else state
        | _ => state
      else state)
    state

end MarkupLint.Markup
