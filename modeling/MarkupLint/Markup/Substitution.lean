import MarkupLint.Markup.Role

set_option autoImplicit false

namespace MarkupLint.Markup

structure Expansion where
  queue : List Nat
  uses : List (String × List String) := []
  origins : List (Nat × Place) := []
  detached : List Nat := []

-- The definition that a name means: one of the same name, else the last one that differs in case.
def definition? (state : Reading) (name : String) : Option (String × Nat) :=
  match state.substitutions.lookup name with
  | some key => some (name, key)
  | none =>
      (state.substitutions.filter fun entry => normalName entry.1 = Text.toLower name).getLast?

def innerDefinition? (state : Reading) (name : String) : Option String :=
  ((state.substitutions.filter fun entry => normalName entry.1 = Text.toLower name).getLast?).map (·.1)

def copyElement (key : Nat) (kind : Element) (place : Place) (children : List Node) : Parse Node := do
  Parse.element kind place children (← Parse.factsOf key)

mutual

def copyNode : Node → Parse Node
  | .text content => pure (.text content)
  | .element key kind place children => do copyElement key kind place (← copyNodes children)

def copyNodes : List Node → Parse (List Node)
  | [] => pure []
  | node :: rest => do
      let first ← copyNode node
      pure (first :: (← copyNodes rest))

end

def substitutionsIn (nodes : List Node) : List (Nat × String) :=
  (Node.visits nodes).filterMap fun visit => match visit.kind with
    | .substitution name _ => some (visit.key, name)
    | _ => none

-- Notes that a definition refers to some names. False if one of them refers to itself already.
def noteUses (state : Reading) (user : String) (origin : Place) :
    List (Nat × String) → Expansion → Except Crash (Bool × Expansion)
  | [], expansion => .ok (true, expansion)
  | (key, name) :: rest, expansion =>
      match innerDefinition? state name with
      | none => .error (.missingSubstitution (Text.toLower name))
      | some inner =>
          let users := (expansion.uses.lookup inner).getD []
          if users.contains inner then .ok (false, expansion)
          else noteUses state user origin rest
            { expansion with
              uses := putNamed inner (users ++ [user]) expansion.uses
              origins := (key, origin) :: expansion.origins
              queue := expansion.queue ++ [key] }

def spoil (key : Nat) (raw : String) : Parse Unit := do
  let node ← problematic raw.toList
  modify fun state => state.replaceNode key [node]

def circular (expansion : Expansion) (key : Nat) (name raw : String) (origin : Place) : Parse Unit := do
  match (← get).parent? key with
  | some (.element parent (.substitutionDefinition defined shown) place children) =>
      Parse.reportNear .error place "Circular substitution definition detected:" [shown]
      if expansion.detached.contains parent then throw (.noValue "replace")
      modify fun state => state.replaceNode parent [Node.message]
      Parse.drop [.element parent (.substitutionDefinition defined shown) place children]
  | _ =>
      Parse.reportNear .error origin ("Circular substitution definition referenced: \"" ++ name ++ "\".")
      spoil key raw

def substitute (key : Nat) (nodes : List Node) : Parse Unit := do
  modify fun state => state.replaceNode key nodes
  nodes.forM fun node => match node with
    | .element inner (.reference _) _ _ => do
        match (← Parse.factsOf inner).refname with
        | some name => Parse.noteReference name inner
        | none => pure ()
    | _ => pure ()

def expandReference (expansion : Expansion) (key : Nat) : Parse Expansion := do
  let state ← get
  match state.find? key with
  | some (.element _ (.substitution name raw) _ _, nearest) =>
      match definition? state name with
      | none =>
          Parse.reportNear .error nearest ("Undefined substitution referenced: \"" ++ name ++ "\".")
          spoil key raw
          pure expansion
      | some (defined, definition) =>
          let held := ((state.find? definition).map (·.1.children)).getD []
          if lineLimit < (Node.contentOfAll held).length then
            Parse.reportNear .error .unknown
              ("Substitution definition \"" ++ defined ++ "\" exceeds the line-length-limit.")
            spoil key raw
            pure expansion
          else
            let origin := (expansion.origins.lookup key).getD nearest
            let copies ← copyNodes held
            match noteUses state defined origin (substitutionsIn copies) expansion with
            | .error crash => throw crash
            | .ok (true, expansion) =>
                substitute key copies
                pure expansion
            | .ok (false, expansion) =>
                let copy ← Parse.element (.substitutionDefinition defined "") .unknown copies
                Parse.drop [copy]
                circular expansion key name raw origin
                pure { expansion with detached := (copy.key?.getD 0) :: expansion.detached }
  | _ => pure expansion

def expandAll : Nat → Expansion → Parse Unit
  | 0, _ => pure ()
  | fuel + 1, expansion =>
      match expansion.queue with
      | [] => pure ()
      | key :: rest => do expandAll fuel (← expandReference { expansion with queue := rest } key)

def substitutionSteps : Nat := 100000

def expandSubstitutions : Parse Unit := do
  let queue := (substitutionsIn (← get).tree).map (·.1)
  expandAll substitutionSteps { queue := queue }

end MarkupLint.Markup
