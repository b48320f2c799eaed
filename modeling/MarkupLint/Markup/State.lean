import MarkupLint.FileTree
import MarkupLint.Markup.Line
import MarkupLint.Markup.Name
import MarkupLint.Markup.Node
import MarkupLint.Registry

set_option autoImplicit false

namespace MarkupLint.Markup

inductive Labelling where
  | written
  | number
  | symbol
deriving DecidableEq, Repr

-- What is known about an element besides its place in the tree. Names that occur twice move to the lost
-- names. A reference to a name or an identifier that has moved here from another element counts for that
-- element too.
structure Facts where
  names : List String := []
  lost : List String := []
  ids : List String := []
  classes : List String := []
  refname : Option String := none
  refid : Option String := none
  refuri : Option String := none
  anonymous : Bool := false
  labelling : Labelling := .written
  resolved : Bool := false
  referenced : Bool := false
  movedNames : List (String × Nat) := []
  movedIds : List (String × Nat) := []
  trimsLeft : Bool := false
  trimsRight : Bool := false
deriving Repr, Inhabited

structure NameEntry where
  id : Option String
  explicit : Bool
deriving DecidableEq, Repr

inductive Crash where
  | noProjectEnvironment
  | missingSubstitution (name : String)
  | noValue (question : String)
  | noInclusion
  | lostLabel
  | noCaption
  | cellsOverlap
  | idsLost (ids : List String)
  | unknownAddress (address : String)
deriving DecidableEq, Repr

inductive Task where
  | setClasses (classes : List String) (directive blockText : String)
  | listContents (ofSection : Bool)
  | numberSections
  | noteTargets
deriving DecidableEq, Repr

structure Pending where
  key : Nat
  task : Task
deriving DecidableEq, Repr

structure Clip where
  firstLine : Option Int := none
  lastLine : Option Int := none
  after : Option String := none
  before : Option String := none
deriving DecidableEq, Repr

structure Inclusion where
  path : String
  clip : Clip
deriving DecidableEq, Repr

-- `current` is where the reading stands, and `main` how far the outermost reader has come, which is where
-- messages without a place of their own are given. `dropped` holds elements that were read and have not
-- made it into the tree; names and substitutions may lead to them all the same.
structure Reading where
  origin : String
  files : FileSystem
  registry : Registry
  reportRank : Nat
  mainPlaces : List Place := []
  messages : List Message := []
  current : Place := .unknown
  main : Place := .unknown
  waiting : Nat := 0
  titleStyles : List (List Char) := []
  level : Nat := 0
  facts : Array Facts := #[{}]
  ids : List (String × Nat) := []
  names : List (String × NameEntry) := []
  counters : List (String × Nat) := []
  references : List (String × List Nat) := []
  idReferences : List (String × List Nat) := []
  substitutions : List (String × Nat) := []
  footnotes : List Nat := []
  citations : List Nat := []
  autoFootnotes : List Nat := []
  symbolFootnotes : List Nat := []
  footnoteReferences : List (String × List Nat) := []
  citationReferences : List (String × List Nat) := []
  autoReferences : List Nat := []
  symbolReferences : List Nat := []
  indirectTargets : List Nat := []
  tasks : List Pending := []
  inclusions : List Inclusion := []
  metas : List Node := []
  headers : List Node := []
  footers : List Node := []
  tree : List Node := []
  dropped : List Node := []

abbrev Parse := ExceptT Crash (StateM Reading)

def addNamed {α : Type} (name : String) (value : α) (rows : List (String × List α)) :
    List (String × List α) :=
  putNamed name ((rows.lookup name).getD [] ++ [value]) rows

namespace Reading

def factsOf (state : Reading) (key : Nat) : Facts := state.facts.getD key {}

def updateFacts (state : Reading) (key : Nat) (change : Facts → Facts) : Reading :=
  { state with facts := state.facts.setIfInBounds key (change (state.factsOf key)) }

def tell (state : Reading) (message : Message) : Reading :=
  { state with messages := message :: state.messages }

-- A message about something at a place. Without one it is given where the outermost reader stands.
def tellNear (state : Reading) (severity : Severity) (place : Place) (text : String)
    (attached : List String := []) : Reading :=
  state.tell ⟨severity, if place.isKnown then place else state.main, text, attached⟩

def setName (state : Reading) (name : String) (entry : NameEntry) : Reading :=
  { state with names := putNamed name entry state.names }

def loseName (state : Reading) (key : Nat) (name : String) : Reading :=
  state.updateFacts key fun facts =>
    { facts with names := facts.names.erase name, lost := facts.lost ++ [name], referenced := true }

def countUp (used : List (String × Nat)) (stem : String) : Nat → Nat → Nat × String
  | 0, count => (count, stem ++ toString count)
  | fuel + 1, count =>
      let candidate := stem ++ toString (count + 1)
      if (used.lookup candidate).isSome then countUp used stem fuel (count + 1)
      else (count + 1, candidate)

def freshId (state : Reading) (names : List String) (tag : String) : String × Reading :=
  match names.map identifierOf |>.find? fun id => !id.isEmpty && (state.ids.lookup id).isNone with
  | some id => (id, state)
  | none =>
      let base := ((names.map identifierOf).getLast?).getD ""
      let stem := (if base.isEmpty then tag else base) ++ "-"
      let start := (state.counters.lookup stem).getD 0
      let (count, id) := countUp state.ids stem (state.ids.length + 1) start
      (id, { state with counters := putNamed stem count state.counters })

def identify (state : Reading) (key : Nat) (tag : String) : String × Reading :=
  match (state.factsOf key).ids.getLast? with
  | some id => (id, state)
  | none =>
      let (id, state) := state.freshId (state.factsOf key).names tag
      let state := state.updateFacts key fun facts => { facts with ids := [id] }
      (id, { state with ids := putNamed id key state.ids })

-- Registers a name that is in use already. Two explicit names clash, unless both lead to the same address;
-- an explicit name wins over an implicit one; two implicit names are both lost.
def registerTwice (state : Reading) (key : Nat) (id name : String) (old : NameEntry)
    (explicit : Bool) (place : Place) : Reading :=
  let oldKey := old.id.bind (state.ids.lookup ·)
  let state := state.setName name { old with explicit := old.explicit || explicit }
  let duplicateImplicit := fun (state : Reading) =>
    state.tellNear .info place ("Duplicate implicit target name: \"" ++ name ++ "\".")
  if explicit then
    if old.explicit then
      let address := (state.factsOf key).refuri
      let sameAddress := match oldKey with
        | some other =>
            let facts := state.factsOf other
            address.isSome && !facts.names.isEmpty && facts.refuri = address
        | none => false
      let state := match oldKey with
        | some other =>
            if sameAddress then state else (state.loseName other name).setName name ⟨none, true⟩
        | none => state
      let state := state.tellNear (if sameAddress then .info else .warning) place
        ("Duplicate explicit target name: \"" ++ name ++ "\".")
      state.loseName key name
    else
      let state := state.setName name ⟨some id, true⟩
      match oldKey with
      | some other => duplicateImplicit (state.loseName other name)
      | none => state
  else
    let state := match oldKey with
      | some other =>
          if old.explicit then state else (state.loseName other name).setName name ⟨none, false⟩
      | none => state
    duplicateImplicit (state.loseName key name)

def registerNames (state : Reading) (key : Nat) (tag : String) (explicit : Bool) (place : Place) :
    Reading :=
  let (id, state) := state.identify key tag
  (state.factsOf key).names.foldl
    (fun state name =>
      match state.names.lookup name with
      | some old => state.registerTwice key id name old explicit place
      | none => state.setName name ⟨some id, explicit⟩)
    state

def owner? (state : Reading) (id : String) : Option Nat := state.ids.lookup id

def idOfName? (state : Reading) (name : String) : Option String :=
  (state.names.lookup name).bind (·.id)

def find? (state : Reading) (key : Nat) : Option (Node × Place) :=
  (Node.findAmong? key .unknown state.tree).orElse fun _ => Node.findAmong? key .unknown state.dropped

def parent? (state : Reading) (key : Nat) : Option Node :=
  (Node.parentAmong? key state.tree).orElse fun _ => Node.parentAmong? key state.dropped

def placeNear (state : Reading) (key : Nat) : Place := ((state.find? key).map (·.2)).getD .unknown

def lineAt (state : Reading) (number : Int) : Place :=
  let places := state.mainPlaces
  match if 1 ≤ number then places[(number - 1).toNat]? else none with
  | some place => place
  | none =>
      if number = places.length + 1 then ((places.getLast?).getD .unknown).down 1 else .ofLine number

def lineOrMain (state : Reading) (line : Option Int) : Place := (line.map state.lineAt).getD state.main

def refer (state : Reading) (key : Nat) (former : Facts → Option Nat) : Reading :=
  let state := state.updateFacts key fun facts => { facts with referenced := true }
  match former (state.factsOf key) with
  | some other => state.updateFacts other fun facts => { facts with referenced := true }
  | none => state

def referByName (state : Reading) (key : Nat) (name : String) : Reading :=
  state.refer key fun facts => facts.movedNames.lookup name

def referById (state : Reading) (key : Nat) (id : String) : Reading :=
  state.refer key fun facts => facts.movedIds.lookup id

def replaceNode (state : Reading) (key : Nat) (nodes : List Node) : Reading :=
  { state with
    tree := Node.replace key nodes state.tree
    dropped := Node.replace key nodes state.dropped }

end Reading

namespace Parse

def report (severity : Severity) (place : Place) (text : String) (attached : List String := []) :
    Parse Unit :=
  modify fun state => state.tell ⟨severity, place, text, attached⟩

def reportNear (severity : Severity) (place : Place) (text : String) (attached : List String := []) :
    Parse Unit :=
  modify fun state => state.tellNear severity place text attached

def element (kind : Element) (place : Place) (children : List Node) (facts : Facts := {}) :
    Parse Node :=
  modifyGet fun state =>
    (.element state.facts.size kind place children, { state with facts := state.facts.push facts })

def group (name : String) (place : Place) (children : List Node) : Parse Node :=
  element (.group name) place children

def factsOf (key : Nat) : Parse Facts := do pure ((← get).factsOf key)

def updateFacts (key : Nat) (change : Facts → Facts) : Parse Unit :=
  modify fun state => state.updateFacts key change

def identify (key : Nat) (tag : String) : Parse String := do
  let (id, state) := (← get).identify key tag
  set state
  pure id

def register (node : Node) (explicit : Bool) (place : Place) : Parse (List Node) := do
  match node with
  | .text _ => pure []
  | .element key kind _ _ =>
      let before := (← get).messages.length
      modify fun state => state.registerNames key (String.ofList (identifierTag kind)) explicit place
      pure (List.replicate ((← get).messages.length - before) Node.message)
where
  identifierTag (kind : Element) : List Char :=
    kind.name.toList.map fun c => if c = '_' then '-' else c

def await (marks : List Node) : Parse Unit :=
  modify fun state => { state with waiting := state.waiting + marks.length }

def collect : Parse (List Node) := do
  let state ← get
  set { state with waiting := 0 }
  pure (List.replicate state.waiting Node.message)

def drop (nodes : List Node) : Parse Unit :=
  modify fun state => { state with dropped := state.dropped ++ nodes }

def noteReference (name : String) (key : Nat) : Parse Unit :=
  modify fun state => { state with references := addNamed name key state.references }

def noteIdReference (id : String) (key : Nat) : Parse Unit :=
  modify fun state => { state with idReferences := addNamed id key state.idReferences }

def postpone (task : Task) (place : Place) : Parse Node := do
  let node ← element .pending place []
  modify fun state => { state with tasks := state.tasks ++ [⟨node.key?.getD 0, task⟩] }
  pure node

end Parse

end MarkupLint.Markup
