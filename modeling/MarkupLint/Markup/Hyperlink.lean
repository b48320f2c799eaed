import MarkupLint.Markup.Substitution

set_option autoImplicit false

namespace MarkupLint.Markup

def keysOf (nodes : List Node) (isWanted : Element → Bool) : List Nat :=
  ((Node.visits nodes).filter fun visit => isWanted visit.kind).map (·.key)

def isReference : Element → Bool
  | .reference _ => true
  | _ => false

def targetKeys (state : Reading) : List Nat := keysOf state.tree (· = .target)

def rawOf : Element → String
  | .reference raw => raw
  | .footnoteReference raw => raw
  | .citationReference raw => raw
  | _ => ""

def spoilReference (key : Nat) : Parse Unit := do
  match (← get).find? key with
  | some (.element _ kind place children, _) => do
      let node ← problematic (rawOf kind).toList
      modify fun state => state.replaceNode key [node]
      -- Names and identifiers go to what is put there.
      Parse.drop [.element key kind place children]
  | _ => pure ()

def holder (state : Reading) : Nat → Nat → Nat
  | 0, key => key
  | fuel + 1, key =>
      let facts := state.factsOf key
      if facts.refuri.isSome || !facts.ids.isEmpty then key
      else
        match facts.refid.bind state.owner? with
        | some next => if next = key then key else holder state fuel next
        | none => key

def tieAnonymous (state : Reading) (reference target : Nat) : Reading :=
  let state := state.updateFacts target fun facts => { facts with referenced := true }
  let facts := state.factsOf (holder state state.facts.size target)
  match facts.refuri, facts.ids with
  | some address, _ =>
      state.updateFacts reference fun facts => { facts with refuri := some address, resolved := true }
  | none, id :: _ =>
      let state := state.updateFacts reference fun facts => { facts with refid := some id }
      { state with idReferences := addNamed id reference state.idReferences }
  | none, [] => state

def resolveAnonymous : Parse Unit := do
  let state ← get
  let isAnonymous (key : Nat) : Bool := (state.factsOf key).anonymous
  let references := (keysOf state.tree isReference).filter isAnonymous
  let targets := (targetKeys state).filter isAnonymous
  if references.length = targets.length then
    modify fun state => (references.zip targets).foldl
      (fun state (reference, target) => tieAnonymous state reference target) state
  else
    Parse.reportNear .error .unknown ("Anonymous hyperlink mismatch: " ++ toString references.length
      ++ " references but " ++ toString targets.length ++ " targets.\nSee \"backrefs\" attribute for IDs.")
    references.forM spoilReference

def indirectError (key : Nat) (name explanation : String) : Parse Unit := do
  let state ← get
  let facts := state.factsOf key
  let naming := (match facts.names with
    | first :: _ => "\"" ++ first ++ "\" "
    | [] => "") ++ (match facts.ids with
    | id :: _ => "(id=\"" ++ id ++ "\")"
    | [] => "")
  Parse.reportNear .error (state.placeNear key) ("Indirect hyperlink target " ++ naming
    ++ " refers to target \"" ++ name ++ "\", " ++ explanation ++ ".")
  let references := (facts.names.flatMap fun name => (state.references.lookup name).getD [])
    ++ facts.ids.flatMap fun id => (state.idReferences.lookup id).getD []
  references.eraseDups.forM spoilReference
  Parse.updateFacts key fun facts => { facts with resolved := true }

def leadNowhere (key : Nat) (name : Option String) : Parse Unit := do
  match name with
  | some name =>
      indirectError key name (if ((← get).names.lookup name).isSome
        then "which is a duplicate, and cannot be used as a unique reference"
        else "which does not exist")
  | none => pure ()

def leadTo (key : Nat) (id : String) : Parse Unit := do
  Parse.updateFacts key fun facts => { facts with refid := some id, refname := none, resolved := true }
  Parse.noteIdReference id key

def leadBy (key : Nat) (name : Option String) (id : String) (owner : Nat) : Parse Unit := do
  let other ← Parse.factsOf owner
  match other.refuri, other.refid, other.ids with
  | some address, _, _ =>
      Parse.updateFacts key fun facts =>
        { facts with refuri := some address, refid := none, refname := none, resolved := true }
  | none, some further, _ => leadTo key further
  | none, none, _ :: _ => leadTo key id
  | none, none, [] => leadNowhere key name

def isTargetKey (state : Reading) (key : Nat) : Bool :=
  ((state.find? key).bind (·.1.kind?)) = some .target

-- Follows the name that a target leads to. `passed` holds the targets on the way here.
def resolveIndirect : Nat → List Nat → Nat → Parse Unit
  | 0, _, _ => pure ()
  | fuel + 1, passed, key => do
      let state ← get
      let facts := state.factsOf key
      let goal : Option String := match facts.refname with
        | some name => state.idOfName? name
        | none => facts.refid
      match goal.bind fun id => (state.owner? id).map fun owner => (id, owner) with
      | none => leadNowhere key facts.refname
      | some (id, owner) =>
          modify fun state => state.referById owner id
          let other := (← get).factsOf owner
          if isTargetKey (← get) owner && !other.resolved && other.refname.isSome then
            if passed.contains key then
              indirectError key (facts.refname.getD "") "forming a circular reference"
            else do
              resolveIndirect fuel (key :: passed) owner
              leadBy key facts.refname id owner
          else leadBy key facts.refname id owner

def resolveReferences (fuel key : Nat) : Parse Unit := do
  match fuel with
  | 0 => pure ()
  | fuel + 1 =>
      let state ← get
      let facts := state.factsOf key
      if facts.refid.isNone && facts.refuri.isNone then pure ()
      else do
        facts.names.forM fun name => do
          let references := ((← get).references.lookup name).getD []
          if !references.isEmpty then modify fun state => state.referByName key name
          references.forM (settle fuel facts)
        facts.ids.forM fun id => do
          let references := ((← get).idReferences.lookup id).getD []
          if !references.isEmpty then modify fun state => state.referById key id
          references.forM (settle fuel facts)
where
  settle (fuel : Nat) (facts : Facts) (reference : Nat) : Parse Unit := do
    if (← Parse.factsOf reference).resolved then pure ()
    else do
      Parse.updateFacts reference fun own =>
        match facts.refid with
        | some id => { own with refname := none, refid := some id, resolved := true }
        | none => { own with refname := none, refid := none, refuri := facts.refuri, resolved := true }
      match facts.refid with
      | some id => Parse.noteIdReference id reference
      | none => pure ()
      if isTargetKey (← get) reference then resolveReferences fuel reference

def resolveAllIndirect : Parse Unit := do
  (← get).indirectTargets.forM fun key => do
    let steps := (← get).facts.size + 2
    if !(← Parse.factsOf key).resolved then resolveIndirect steps [] key
    resolveReferences steps key

def resolveExternal (state : Reading) (key : Nat) : Reading :=
  let facts := state.factsOf key
  if facts.refuri.isNone then state
  else
    facts.names.foldl
      (fun state name =>
        let references := (state.references.lookup name).getD []
        let state := if references.isEmpty then state else state.referByName key name
        references.foldl
          (fun state reference => state.updateFacts reference fun own =>
            if own.resolved then own
            else { own with refname := none, refuri := facts.refuri, resolved := true })
          state)
      state

def resolveInternal (state : Reading) (key : Nat) : Reading :=
  let facts := state.factsOf key
  if facts.refuri.isSome || facts.refid.isSome then state
  else
    facts.names.foldl
      (fun state name =>
        let references := (state.references.lookup name).getD []
        let state := if references.isEmpty then state else state.referByName key name
        let id := state.idOfName? name
        references.foldl
          (fun state reference => state.updateFacts reference fun own =>
            if own.resolved then own
            else if id.isSome then { own with refname := none, refid := id, resolved := true }
            else { own with resolved := true })
          state)
      state

def resolveTargets (state : Reading) : Reading :=
  let state := (targetKeys state).foldl resolveExternal state
  (targetKeys state).foldl resolveInternal state

def isAnyReference : Element → Bool
  | .reference _ => true
  | .footnoteReference _ => true
  | .citationReference _ => true
  | _ => false

def checkReference (state : Reading) (visit : Node.Visit) : Reading :=
  let facts := state.factsOf visit.key
  match if facts.resolved then none else facts.refname with
  | none => state
  | some name =>
      match state.names.lookup name with
      | some ⟨some id, _⟩ =>
          let state := state.updateFacts visit.key fun facts =>
            { facts with refname := none, refid := some id, resolved := true }
          match state.owner? id with
          | some owner => state.referById owner id
          | none => state
      | some ⟨none, _⟩ => state.tellNear .error visit.nearest
          ("Duplicate target name, cannot be used as a unique reference: \"" ++ name ++ "\".")
      | none => state.tellNear .error visit.nearest ("Unknown target name: \"" ++ name ++ "\".")

def noteUnused (state : Reading) (visit : Node.Visit) : Reading :=
  let facts := state.factsOf visit.key
  if facts.referenced || facts.anonymous then state
  else
    let naming := match facts.names, facts.ids with
      | name :: _, _ => name
      | [], id :: _ => id
      | [], [] => facts.refid.getD ""
    state.tellNear .info visit.nearest ("Hyperlink target \"" ++ naming ++ "\" is not referenced.")

def checkReferences (state : Reading) : Reading :=
  let visits := Node.visits state.tree
  let state := (visits.filter fun visit => isAnyReference visit.kind).foldl checkReference state
  (visits.filter fun visit => visit.kind = .target).foldl noteUnused state

end MarkupLint.Markup
