import MarkupLint.Script.Tree

set_option autoImplicit false

namespace MarkupLint.Script

inductive Mark where
  | parameter
  | bound
  | imported
  | used
  | global
  | nonlocal
  | annotated
  | iterated
deriving DecidableEq, Repr

inductive BlockKind where
  | program
  | classBody
  | function
  | hint
  | comprehension (title : String)
deriving DecidableEq, Repr

inductive Block where
  | mk (kind : BlockKind) (marks : List (String × List Mark)) (declared : List (String × Nat))
      (inner : List Block)

namespace Block

def empty (kind : BlockKind) : Block := .mk kind [] [] []

def kind : Block → BlockKind
  | .mk kind .. => kind

def isComprehension (block : Block) : Bool :=
  match block.kind with
  | .comprehension _ => true
  | _ => false

def marksOf (name : String) : Block → List Mark
  | .mk _ marks _ _ => (marks.lookup name).getD []

def mark (name : String) (new : List Mark) : Block → Block
  | .mk kind marks declared inner =>
      let marks := if (marks.lookup name).isSome then
          marks.map fun (other, old) => (other, if other = name then old ++ new else old)
        else marks ++ [(name, new)]
      .mk kind marks declared inner

def declare (name : String) (line : Nat) : Block → Block
  | .mk kind marks declared inner => .mk kind marks (declared ++ [(name, line)]) inner

def addInner : Block → Block → Block
  | .mk kind marks declared inner, block => .mk kind marks declared (inner ++ [block])

end Block

structure Scopes where
  current : Block := .empty .program
  outer : List Block := []
  inIterable : Nat := 0
  inTarget : Bool := false
  owner : Option String := none

abbrev Walk := StateT Scopes (Except Fault)

inductive Errand where
  | use
  | bind
  | parameters
  | defaults
  | annotations
deriving DecidableEq, Repr

namespace Scope

def wrong {α : Type} (line : Nat) (message : String) : Walk α := throw ⟨line, message⟩

def quoted (before name after : String) : String := before ++ "'" ++ name ++ "'" ++ after

-- A name as it is known in a class: one with two underscores before it, and not behind, is the class's own.
def ownName (owner : Option String) (name : String) : String :=
  let title := ((owner.getD "").toList.dropWhile (· = '_'))
  if !title.isEmpty && name.startsWith "__" && !name.endsWith "__" && !name.toList.contains '.' then
    "_" ++ String.ofList title ++ name
  else name

def marksHere (scopes : Scopes) (name : String) : List Mark :=
  scopes.current.marksOf (ownName scopes.owner name)

def noted (scopes : Scopes) (name : String) (marks : List Mark) : Scopes :=
  { scopes with current := scopes.current.mark (ownName scopes.owner name) marks }

def markName (name : String) (line : Nat) (mark : Mark) : Walk Unit := do
  let scopes ← get
  let before := marksHere scopes name
  if mark = .parameter && before.contains .parameter then
    wrong line (quoted "duplicate argument " name " in function definition")
  if scopes.inTarget then
    if before.contains .global || before.contains .nonlocal then
      wrong line
        (quoted "comprehension inner loop cannot rebind assignment expression target " name "")
    set (noted scopes name [mark, .iterated])
  else set (noted scopes name [mark])

def inside (kind : BlockKind) (walk : Walk Unit) : Walk Unit := do
  let before ← get
  set { ({} : Scopes) with
    current := .empty kind, outer := before.current :: before.outer, inIterable := before.inIterable
    owner := before.owner }
  walk
  let after ← get
  match after.outer with
  | parent :: outer =>
      set { before with
        current := if kind = BlockKind.hint then parent else parent.addInner after.current, outer := outer }
  | [] => set before

def insideClass (name : Option String) (walk : Walk Unit) : Walk Unit :=
  inside .classBody (do
    modify fun scopes => { scopes with owner := name }
    walk)

def refuseInHint (line : Nat) (title : String) : Walk Unit := do
  if (← get).current.kind = BlockKind.hint then
    wrong line ("'" ++ title ++ "' can not be used within an annotation")

def declareNames (mark : Mark) (line : Nat) (names : List String) : Walk Unit :=
  let word := if mark = .global then "global" else "nonlocal"
  names.forM fun name => do
    let before := marksHere (← get) name
    if before.contains .parameter then
      wrong line (quoted "name " name (" is parameter and " ++ word))
    else if before.contains .used then
      wrong line (quoted "name " name (" is used prior to " ++ word ++ " declaration"))
    else if before.contains .annotated then
      wrong line (quoted "annotated name " name (" can't be " ++ word))
    else if before.contains .bound then
      wrong line (quoted "name " name (" is assigned to before " ++ word ++ " declaration"))
    modify fun scopes =>
      let scopes := declared scopes name line [mark]
      if mark = .global then { scopes with outer := markLast name scopes.outer } else scopes
where
  declared (scopes : Scopes) (name : String) (line : Nat) (marks : List Mark) : Scopes :=
    let own := ownName scopes.owner name
    { scopes with current := (scopes.current.mark own marks).declare own line }
  -- The program itself knows which of its names are declared elsewhere.
  markLast (name : String) : List Block → List Block
    | [] => []
    | [program] => [program.mark name [.global]]
    | block :: rest => block :: markLast name rest

def bindOutside (name : String) (line : Nat) (scopes : Scopes) : Except Fault Scopes :=
  let rec place : List Block → Except Fault (Mark × List Block)
    | [] => .ok (.global, [])
    | block :: rest =>
        match block.kind with
        | .comprehension _ =>
            if (block.marksOf name).contains .iterated then
              .error ⟨line, quoted
                "assignment expression cannot rebind comprehension iteration variable " name ""⟩
            else (place rest).map fun (mark, rest) => (mark, block :: rest)
        | .function =>
            let mark := if (block.marksOf name).contains .global then Mark.global else .nonlocal
            .ok (mark, block.mark name [.bound] :: rest)
        | .hint => (place rest).map fun (mark, rest) => (mark, block :: rest)
        | .program => .ok (.global, block.mark name [.global] :: rest)
        | .classBody => .error ⟨line,
            "assignment expression within a comprehension cannot be used in a class body"⟩
  match place (scopes.current :: scopes.outer) with
  | .error fault => .error fault
  | .ok (mark, current :: outer) =>
      .ok { scopes with current := (current.mark name [mark]).declare name line, outer := outer }
  | .ok (_, []) => .ok scopes

def isProgram (scopes : Scopes) : Bool := scopes.current.kind = .program

def bindImport (parts : List Tree) : Walk Unit :=
  match Tree.importedName? parts with
  | some (name, line) => markName name line .imported
  | none => pure ()

def annotateName (line : Nat) (token : Token) : Walk Unit := do
  let scopes ← get
  let before := marksHere scopes token.text
  if (before.contains .global || before.contains .nonlocal) && !isProgram scopes then
    wrong line (quoted "annotated name " token.text
      (if before.contains .global then " can't be global" else " can't be nonlocal"))
  markName token.text token.line .bound
  markName token.text token.line .annotated

def prepareNamed (line : Nat) (target : Tree) : Walk Unit := do
  refuseInHint line "named expression"
  let scopes ← get
  if 0 < scopes.inIterable then
    wrong line "assignment expression cannot be used in a comprehension iterable expression"
  if scopes.current.isComprehension then
    match bindOutside (ownName scopes.owner ((target.name?).getD "")) target.line scopes with
    | .ok scopes => set scopes
    | .error fault => throw fault

def asTarget (walk : Walk Unit) : Walk Unit := do
  modify fun scopes => { scopes with inTarget := true }
  walk
  modify fun scopes => { scopes with inTarget := false }

def asIterable (walk : Walk Unit) : Walk Unit := do
  modify fun scopes => { scopes with inIterable := scopes.inIterable + 1 }
  walk
  modify fun scopes => { scopes with inIterable := scopes.inIterable - 1 }

def checkYield (line : Nat) : Walk Unit := do
  match (← get).current.kind with
  | .comprehension title => wrong line ("'yield' inside " ++ title)
  | _ => pure ()

def useName (token : Token) : Walk Unit := do
  if token.text = "__debug__" then pure ()
  else
    markName token.text token.line .used
    -- This name stands for the class around a function too.
    if token.text = "super" && (← get).current.kind = BlockKind.function then
      markName "__class__" token.line .used

mutual

def visit (errand : Errand) : Tree → Walk Unit
  | .leaf token =>
      if token.isName then
        match errand with
        | .use => useName token
        | .bind => markName token.text token.line .bound
        | _ => pure ()
      else pure ()
  | .node kind line parts =>
      match kind, parts with
      | .parameter, .leaf token :: annotation =>
          match errand with
          | .parameters => markName token.text token.line .parameter
          | .annotations => visitAll .use annotation
          | _ => pure ()
      | .defaulted, parameter :: default =>
          match errand with
          | .defaults => visitAll .use default
          | _ => visit errand parameter
      | .attribute, value :: _ => visit .use value
      | .subscript, parts => visitAll .use parts
      | .call, parts => visitAll .use parts
      | .keyword, [_, value] => visit .use value
      | .annotatedStmt, .leaf token :: annotation :: value => do
          annotateName line token
          inside .hint (visit .use annotation)
          visitAll .use value
      | .annotatedPlace, target :: annotation :: value => do
          match target with
          | .leaf token =>
              if !value.all Tree.isAbsent then markName token.text token.line .bound
          | .node kind line parts => visit .use (.node kind line parts)
          inside .hint (visit .use annotation)
          visitAll .use value
      | .assignStmt, targets :: value => do
          visit .bind targets
          visitAll .use value
      | .augmentedStmt, target :: value => do
          visit .bind target
          visitAll .use value
      | .deleteStmt, parts => visitAll .bind parts
      | .globalStmt, parts =>
          declareNames .global line ((Tree.membersOf parts).filterMap Tree.name?)
      | .nonlocalStmt, parts =>
          declareNames .nonlocal line ((Tree.membersOf parts).filterMap Tree.name?)
      | .importFrom, [_, _, names] => visitImports line names
      | .importRelative, [_, names] => visitImports line names
      | .importName, parts => bindImport parts
      | .classDef, [name, bases, body] => do
          visit .bind name
          visit .use bases
          insideClass name.name? (visit .use body)
      | .functionDef, [name, parameters, returns, body] => do
          visit .bind name
          visit .defaults parameters
          inside .hint (visit .annotations parameters)
          inside .hint (visit .use returns)
          inside .function (do
            visit .parameters parameters
            visit .use body)
      | .asyncFunctionDef, [name, parameters, returns, body] => do
          visit .bind name
          visit .defaults parameters
          inside .hint (visit .annotations parameters)
          inside .hint (visit .use returns)
          inside .function (do
            visit .parameters parameters
            visit .use body)
      | .lambdaExpr, [parameters, body] => do
          visit .defaults parameters
          inside .function (do
            visit .parameters parameters
            visit .use body)
      | .forStmt, target :: rest => do
          visit .bind target
          visitAll .use rest
      | .asyncForStmt, target :: rest => do
          visit .bind target
          visitAll .use rest
      | .withItem, context :: target => do
          visit .use context
          visitAll .bind target
      | .handler, [type, name, body] => do
          visit .use type
          visit .bind name
          visit .use body
      | .tryStmt, [body, handlers, otherwise, final] => do
          visit .use body
          visit .use otherwise
          visit .use handlers
          visit .use final
      | .tryStarStmt, [body, handlers, otherwise, final] => do
          visit .use body
          visit .use otherwise
          visit .use handlers
          visit .use final
      | .capturePattern, parts => visitAll .bind parts
      | .starPattern, parts => visitAll .bind parts
      | .mappingRest, parts => visitAll .bind parts
      | .asPattern, pattern :: name => do
          visit .use pattern
          visitAll .bind name
      | .keywordPattern, [_, pattern] => visit .use pattern
      | .namedExpr, target :: value => do
          prepareNamed line target
          visitAll .use value
          visit .bind target
      | .listComp, [element, clauses] => do
          visitFirstItems clauses
          inside (.comprehension "list comprehension") (do
            visitClauses clauses
            visit .use element)
      | .setComp, [element, clauses] => do
          visitFirstItems clauses
          inside (.comprehension "set comprehension") (do
            visitClauses clauses
            visit .use element)
      | .dictComp, [element, clauses] => do
          visitFirstItems clauses
          inside (.comprehension "dict comprehension") (do
            visitClauses clauses
            visit .use element)
      | .generator, [element, clauses] => do
          visitFirstItems clauses
          inside (.comprehension "generator expression") (do
            visitClauses clauses
            visit .use element)
      | .yieldExpr, parts => do
          refuseInHint line "yield expression"
          visitAll .use parts
          checkYield line
      | .yieldFrom, parts => do
          refuseInHint line "yield expression"
          visitAll .use parts
          checkYield line
      | .awaitExpr, parts => do
          refuseInHint line "await expression"
          visitAll .use parts
      | .conditional, [body, test, otherwise] => do
          visit .use test
          visit .use body
          visit .use otherwise
      | _, parts => visitAll errand parts

def visitAll (errand : Errand) : List Tree → Walk Unit
  | [] => pure ()
  | tree :: rest => do
      visit errand tree
      visitAll errand rest

def visitImports (line : Nat) : Tree → Walk Unit
  | .leaf _ => do
      if !isProgram (← get) then wrong line "import * only allowed at module level"
  | .node kind _ parts =>
      match kind with
      | .importName => bindImport parts
      | _ => visitImportsOf line parts

def visitImportsOf (line : Nat) : List Tree → Walk Unit
  | [] => pure ()
  | tree :: rest => do
      visitImports line tree
      visitImportsOf line rest

def visitFirstItems : Tree → Walk Unit
  | .node _ _ (.node _ _ (_ :: items :: _) :: _) => asIterable (visit .use items)
  | _ => pure ()

def visitClauses : Tree → Walk Unit
  | .node _ _ (.node _ _ (target :: _ :: conditions) :: rest) => do
      asTarget (visit .bind target)
      visitAll .use conditions
      visitMoreClauses rest
  | _ => pure ()

def visitMoreClauses : List Tree → Walk Unit
  | [] => pure ()
  | .node _ _ (target :: items :: conditions) :: rest => do
      asTarget (visit .bind target)
      asIterable (visit .use items)
      visitAll .use conditions
      visitMoreClauses rest
  | _ :: rest => visitMoreClauses rest

end

mutual

-- The first name that a block takes from outside and that is not there. The names are those bound by the
-- functions around the block; around the program there is nothing.
def missing? (outside : Option (List String)) : Block → Option Fault
  | .mk kind marks declared inner =>
      let wrongName (entry : String × List Mark) : Option Fault :=
        let (name, marks) := entry
        let line := (declared.lookup name).getD 0
        if marks.contains .nonlocal then
          if marks.contains .global then
            some ⟨line, quoted "name " name " is nonlocal and global"⟩
          else
            match outside with
            | none => some ⟨line, "nonlocal declaration not allowed at module level"⟩
            | some names =>
                if names.contains name then none
                else some ⟨line, quoted "no binding for nonlocal " name " found"⟩
        else none
      let isFunction := match kind with
        | .function | .comprehension _ => true
        | _ => false
      let own := if isFunction then
          (marks.filter fun (_, marks) =>
            (marks.contains .bound || marks.contains .imported || marks.contains .parameter) && !marks.contains .global
              && !marks.contains .nonlocal).map (·.1)
        else []
      let kept := (outside.getD []).filter fun name =>
        !((marks.lookup name).getD []).contains .global
      (marks.findSome? wrongName).orElse fun _ =>
        missingIn? (some (own ++ kept ++ (if kind = .classBody then ["__class__"] else []))) inner

def missingIn? (outside : Option (List String)) : List Block → Option Fault
  | [] => none
  | block :: rest => (missing? outside block).orElse fun _ => missingIn? outside rest

end

def fault? (tree : Tree) : Option Fault :=
  match (visit .use tree).run {} with
  | .error fault => some fault
  | .ok (_, scopes) => missing? none scopes.current

end Scope

end MarkupLint.Script
