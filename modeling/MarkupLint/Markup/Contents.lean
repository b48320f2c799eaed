import MarkupLint.Markup.Footnote

set_option autoImplicit false

namespace MarkupLint.Markup

def notedAddresses (state : Reading) : List String :=
  let named := (targetKeys state).filterMap fun key =>
    let facts := state.factsOf key
    if facts.names.any fun name => !((state.references.lookup name).getD []).isEmpty then facts.refuri
    else none
  let anonymous := (keysOf state.tree isReference).filterMap fun key =>
    let facts := state.factsOf key
    if facts.anonymous then facts.refuri else none
  (named ++ anonymous).eraseDups

def noteTargets (key : Nat) : Parse Unit := do
  let state ← get
  match notedAddresses state with
  | [] =>
      let ids := (state.factsOf key).ids
      if !ids.isEmpty then throw (.idsLost ids)
      set (state.replaceNode key [])
  | addresses =>
      let notes ← addresses.mapM fun _ => Parse.element .footnote .unknown []
      modify fun state => state.replaceNode key notes

def listedNodes (state : Reading) (key : Nat) (ofSection : Bool) : List Node :=
  if ofSection then
    match sectionAround key none state.tree with
    | some (some nodes) => nodes
    | _ => state.tree
  else state.tree
where
  -- The children of the section that a node stands in; the inner `none` is the document.
  sectionAround (key : Nat) (around : Option (List Node)) (nodes : List Node) :
      Option (Option (List Node)) :=
    match nodes with
    | [] => none
    | .text _ :: rest => sectionAround key around rest
    | .element own kind _ children :: rest =>
        if own = key then some around
        else
          let inner := if kind = .section then some children else around
          (sectionAround key inner children).orElse fun _ => sectionAround key around rest

def endsInSection (nodes : List Node) : Bool := (nodes.getLast?.bind (·.kind?)) = some .section

def listContents (key : Nat) (ofSection : Bool) : Parse Unit := do
  let state ← get
  if endsInSection (listedNodes state key ofSection) then
    let list ← Parse.group "bullet_list" .unknown []
    modify fun state => state.replaceNode key [list]
  else
    -- Without sections, what holds the mark is gone.
    match (state.parent? key).bind (·.key?) with
    | some topic => set (state.replaceNode topic [])
    | none => pure ()

def finishTasks (stage : Task → Option (Nat → Parse Unit)) : Parse Unit := do
  (← get).tasks.forM fun pending => match stage pending.task with
    | some action => action pending.key
    | none => pure ()

def noteAllTargets : Parse Unit :=
  finishTasks fun
    | .noteTargets => some noteTargets
    | _ => none

def numberAllSections : Parse Unit :=
  finishTasks fun
    | .numberSections => some fun key => modify fun state => state.replaceNode key []
    | _ => none

def listAllContents : Parse Unit :=
  finishTasks fun
    | .listContents ofSection => some fun key => listContents key ofSection
    | _ => none

end MarkupLint.Markup
