import MarkupLint.Markup.Hyperlink

set_option autoImplicit false

namespace MarkupLint.Markup

def freeNumber (state : Reading) : Nat → Nat → Nat
  | 0, number => number
  | fuel + 1, number =>
      if (state.footnoteReferences.lookup (toString number)).isSome then freeNumber state fuel (number + 1)
      else number

def tieToNote (state : Reading) (note : Nat) (references : List Nat) : Reading :=
  let id := (state.factsOf note).ids.head?
  references.foldl
    (fun state reference => state.updateFacts reference fun own =>
      if own.resolved then own else { own with refname := none, refid := id, resolved := true })
    state

def numberFootnotes : List Nat → Nat → Parse (List String)
  | [], _ => pure []
  | key :: rest, start => do
      let state ← get
      let number := freeNumber state (state.footnoteReferences.length + 1) start
      let label := toString number
      let names := (state.factsOf key).names
      modify fun state => names.foldl
        (fun state name => tieToNote state key ((state.footnoteReferences.lookup name).getD [])) state
      let facts ← Parse.factsOf key
      if facts.names.isEmpty && facts.lost.isEmpty then
        Parse.updateFacts key fun facts => { facts with names := [label] }
        modify fun state => state.registerNames key "footnote" true (state.placeNear key)
        pure (label :: (← numberFootnotes rest (number + 1)))
      else numberFootnotes rest (number + 1)

def refuseRest (references : List Nat) : Parse Unit :=
  references.forM fun key => do
    let facts ← Parse.factsOf key
    if facts.resolved || facts.refname.isSome then pure () else spoilReference key

def numberReferences (labels all : List String) (references : List Nat) (done : Nat) :
    List Nat → Parse Unit
  | [] => pure ()
  | key :: rest => do
      let state ← get
      let facts := state.factsOf key
      if facts.resolved || facts.refid.isSome then numberReferences labels all references done rest
      else
        match labels with
        | [] =>
            Parse.reportNear .error (state.placeNear key)
              ("Too many autonumbered footnote references: only " ++ toString all.length
                ++ " corresponding footnotes available.")
            refuseRest (references.drop done)
        | label :: others =>
            match state.idOfName? label with
            | none => throw .lostLabel
            | some id =>
                Parse.updateFacts key fun facts => { facts with refid := some id, resolved := true }
                Parse.noteIdReference id key
                numberReferences others all references (done + 1) rest

def symbolReferences (footnotes references : List Nat) : Parse Unit := do
  let state ← get
  match references[footnotes.length]? with
  | none => pure ()
  | some key =>
      Parse.reportNear .error (state.placeNear key) ("Too many symbol footnote references: only "
        ++ toString footnotes.length ++ " corresponding footnotes available.")
      (references.drop footnotes.length).forM spoilReference

def tieLabels (state : Reading) : Reading :=
  let tie (references : Reading → List (String × List Nat)) (state : Reading) (note : Nat) : Reading :=
    (state.factsOf note).names.foldl
      (fun state name => tieToNote state note (((references state).lookup name).getD [])) state
  let state := state.footnotes.foldl (tie (·.footnoteReferences)) state
  state.citations.foldl (tie (·.citationReferences)) state

def resolveNotes : Parse Unit := do
  let state ← get
  let labels ← numberFootnotes state.autoFootnotes 1
  numberReferences labels labels state.autoReferences 0 state.autoReferences
  symbolReferences state.symbolFootnotes state.symbolReferences
  modify tieLabels

end MarkupLint.Markup
