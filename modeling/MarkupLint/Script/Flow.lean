import MarkupLint.Script.Matching

set_option autoImplicit false

namespace MarkupLint.Script

inductive CodeUnit where
  | program
  | classBody
  | function
  | asyncFunction
  | comprehension
deriving DecidableEq, Repr

inductive Frame where
  | loop
  | groupHandler
  | final (outcome : Except Fault PUnit)
  | other

structure Setting where
  unit : CodeUnit := .program
  frames : List Frame := []
  handsOut : Bool := false
  futureLine : Nat := 0

inductive Usage where
  | load
  | item
  | store
  | storeItem
  | delete
  | defaults
  | positional
  | keywords
deriving DecidableEq, Repr

namespace Usage

def isStore (usage : Usage) : Bool := usage = .store || usage = .storeItem

def ofElement : Usage → Usage
  | .store | .storeItem => .storeItem
  | .delete => .delete
  | _ => .item

end Usage

structure Conduct where
  yields : Bool := false
  waits : Bool := false

def Conduct.with (a b : Conduct) : Conduct := ⟨a.yields || b.yields, a.waits || b.waits⟩

def Setting.inFunction (here : Setting) (isAsync : Bool) (conduct : Conduct) : Setting :=
  { unit := if isAsync then .asyncFunction else .function
    handsOut := conduct.yields && (isAsync || conduct.waits)
    futureLine := here.futureLine }

def Setting.inComprehension (here : Setting) : Setting :=
  { unit := .comprehension, futureLine := here.futureLine }

def Conduct.around (first element clauses : Conduct) : Conduct :=
  first.with { waits := element.waits || clauses.waits }

namespace Flow

def wrong (line : Nat) (message : String) : Except Fault PUnit := .error ⟨line, message⟩

def maxFrames : Nat := 20

def enter (here : Setting) (line : Nat) (frame : Frame) : Except Fault Setting :=
  if maxFrames ≤ here.frames.length then .error ⟨line, "too many statically nested blocks"⟩
  else .ok { here with frames := frame :: here.frames }

def isStarred (tree : Tree) : Bool := tree.kind? = some .starred

def checkUnpacking (usage : Usage) (line : Nat) (parts : List Tree) : Except Fault PUnit :=
  let targets := if usage.isStore then Tree.membersOf parts else []
  if 256 ≤ (targets.takeWhile (!isStarred ·)).length && targets.any isStarred then
    wrong line "too many expressions in star-unpacking assignment"
  else if 1 < targets.countP isStarred then wrong line "multiple starred expressions in assignment"
  else .ok ()

def checkBinding (line : Nat) (name : String) : Except Fault PUnit :=
  if name = Constant.checkedName then wrong line boundReserved else .ok ()

def checkName (usage : Usage) (token : Token) : Except Fault PUnit :=
  match usage with
  | .store | .storeItem => checkBinding token.line token.text
  | .delete =>
      if token.text = Constant.checkedName then
        wrong token.line ("cannot delete " ++ Constant.checkedName)
      else .ok ()
  | _ => .ok ()

def checkBound (line : Nat) : Tree → Except Fault PUnit
  | .leaf token => checkBinding line token.text
  | .node .. => .ok ()

def parameterNames (parameters : Tree) : List String :=
  parameters.elements.filterMap fun tree =>
    let parameter := if tree.kind? = some .defaulted then tree.parts.head? else some tree
    (parameter.bind (·.parts.head?)).bind Tree.name?

def checkImports (line : Nat) (names : List Tree) : Except Fault PUnit :=
  (Tree.membersOf names).forM fun tree =>
    match if tree.kind? = some .importName then Tree.importedName? tree.parts else none with
    | some (name, _) => checkBinding line name
    | none => .ok ()

def mayBeIdentical (tree : Tree) : Bool := ((Constant.ofTree? tree).map Constant.isUnique).getD true

-- Comparisons by identity with a value that has none. A comparison on its own may be turned round by a
-- negation.
def checkIdentity (line : Nat) (negated : Bool) : Bool → List Tree → Except Fault PUnit
  | _, [] => .ok ()
  | left, part :: rest =>
      let right := part.parts.all mayBeIdentical
      let is := part.kind? = some .isPart
      if (is || part.kind? = some .isNotPart) && !(left && right) then
        wrong line (if is ≠ negated then "\"is\" with a literal. Did you mean \"==\"?"
          else "\"is not\" with a literal. Did you mean \"!=\"?")
      else checkIdentity line negated right rest

def comma : String := "; perhaps you missed a comma?"

def checkCallee (line : Nat) (callee : Tree) : Except Fault PUnit :=
  match typeOf? callee with
  | some name =>
      if name = "function" then .ok ()
      else wrong line ("'" ++ name ++ "' object is not callable" ++ comma)
  | none => .ok ()

def checkSubscript (line : Nat) (value index : Tree) : Except Fault PUnit :=
  match typeOf? value with
  | none => .ok ()
  | some name =>
      if ["NoneType", "ellipsis", "int", "bool", "float", "complex", "set", "generator",
          "function"].contains name then
        wrong line ("'" ++ name ++ "' object is not subscriptable" ++ comma)
      else
        match typeOf? index with
        | none => .ok ()
        | some indexName =>
            if name = "dict" || indexName = "int" || indexName = "bool" then .ok ()
            else
              wrong line (name ++ " indices must be integers or slices, not " ++ indexName ++ comma)

def checkKeywords (line : Nat) : List Tree → Except Fault PUnit
  | [] => .ok ()
  | tree :: rest =>
      match keywordOf? tree with
      | none => checkKeywords line rest
      | some name => do
          checkBinding line name
          match rest.find? (keywordOf? · = some name) with
          | some again => wrong again.line ("keyword argument repeated: " ++ name)
          | none => checkKeywords line rest
where
  keywordOf? (tree : Tree) : Option String :=
    if tree.kind? = some .keyword then tree.parts.head?.bind Tree.name? else none

mutual

-- What a part of a block's code does, apart from blocks inside it: of those, only what is carried out in
-- passing counts.
def conduct : Tree → Conduct
  | .leaf _ => {}
  | .node kind _ parts =>
      match kind, parts with
      | .yieldExpr, parts => { yields := true : Conduct }.with (conductOf parts)
      | .yieldFrom, parts => { yields := true : Conduct }.with (conductOf parts)
      | .awaitExpr, parts => { waits := true : Conduct }.with (conductOf parts)
      | .functionDef, _ :: parameters :: _ => defaultConduct parameters
      | .asyncFunctionDef, _ :: parameters :: _ => defaultConduct parameters
      | .lambdaExpr, parameters :: _ => defaultConduct parameters
      | .classDef, _ :: bases :: _ => conduct bases
      | .annotatedStmt, target :: _ :: value => (conduct target).with (conductOf value)
      | .annotatedPlace, target :: _ :: value => (conduct target).with (conductOf value)
      | .listComp, [element, clauses] =>
          .around (firstItemsConduct clauses) (conduct element) (clausesConduct clauses)
      | .setComp, [element, clauses] =>
          .around (firstItemsConduct clauses) (conduct element) (clausesConduct clauses)
      | .dictComp, [element, clauses] =>
          .around (firstItemsConduct clauses) (conduct element) (clausesConduct clauses)
      | .generator, [_, clauses] => firstItemsConduct clauses
      | _, parts => conductOf parts

def conductOf : List Tree → Conduct
  | [] => {}
  | tree :: rest => (conduct tree).with (conductOf rest)

def defaultConduct : Tree → Conduct
  | .leaf _ => {}
  | .node kind _ parts =>
      match kind, parts with
      | .defaulted, _ :: default => conductOf default
      | .parameter, _ => {}
      | _, parts => defaultConductOf parts

def defaultConductOf : List Tree → Conduct
  | [] => {}
  | tree :: rest => (defaultConduct tree).with (defaultConductOf rest)

def firstItemsConduct : Tree → Conduct
  | .node _ _ (.node _ _ (_ :: items :: _) :: _) => conduct items
  | _ => {}

def clausesConduct : Tree → Conduct
  | .node _ _ (.node kind _ (target :: _ :: conditions) :: rest) =>
      { waits := kind = .asyncClause : Conduct }.with
        (((conduct target).with (conductOf conditions)).with (moreClausesConduct rest))
  | _ => {}

def moreClausesConduct : List Tree → Conduct
  | [] => {}
  | .node kind _ parts :: rest =>
      { waits := kind = .asyncClause : Conduct }.with ((conductOf parts).with (moreClausesConduct rest))
  | _ :: rest => moreClausesConduct rest

end

def comprehensionWaits (element clauses : Tree) : Bool :=
  (conduct element).waits || (clausesConduct clauses).waits

def groupMessage : String := "'break', 'continue' and 'return' cannot appear in an except* block"

def leaveLoop (line : Nat) (outside : String) : List Frame → Except Fault PUnit
  | [] => wrong line outside
  | .loop :: _ => .ok ()
  | .groupHandler :: _ => wrong line groupMessage
  | .final outcome :: rest => do
      outcome
      leaveLoop line outside rest
  | .other :: rest => leaveLoop line outside rest

def leaveAll (line : Nat) : List Frame → Except Fault PUnit
  | [] => .ok ()
  | .groupHandler :: _ => wrong line groupMessage
  | .final outcome :: rest => do
      outcome
      leaveAll line rest
  | _ :: rest => leaveAll line rest

def checkReturn (here : Setting) (line : Nat) (values : List Tree) : Except Fault PUnit :=
  if here.unit = .program || here.unit = .classBody then wrong line "'return' outside function"
  else if here.handsOut && !values.all Tree.isAbsent then
    wrong line "'return' with value in async generator"
  else .ok ()

def checkAsync (here : Setting) (line : Nat) (statement : String) : Except Fault PUnit :=
  if here.unit = .asyncFunction then .ok ()
  else wrong line ("'" ++ statement ++ "' outside async function")

def checkAwait (here : Setting) (line : Nat) : Except Fault PUnit :=
  match here.unit with
  | .program | .classBody => wrong line "'await' outside function"
  | .function => wrong line "'await' outside async function"
  | _ => .ok ()

def checkYield (here : Setting) (line : Nat) (delegates : Bool) : Except Fault PUnit :=
  if here.unit = .program || here.unit = .classBody then wrong line "'yield' outside function"
  else if delegates && here.unit = .asyncFunction then
    wrong line "'yield from' inside async function"
  else .ok ()

def checkWaiting (here : Setting) (line : Nat) (waits : Bool) : Except Fault PUnit :=
  if waits && here.unit ≠ .asyncFunction && here.unit ≠ .comprehension then
    wrong line "asynchronous comprehension outside of an asynchronous function"
  else .ok ()

def checkAssertion (line : Nat) (test : Tree) : Except Fault PUnit :=
  let isTuple : Bool := match Constant.ofTree? test with
    | some (.tuple items) => !items.isEmpty
    | _ => test.kind? = some .tuple && !test.elements.isEmpty
  if isTuple then wrong line "assertion is always true, perhaps remove parentheses?" else .ok ()

def isFuture (module? : Tree) : Bool := module?.name? = some "__future__"

def lateFuture : String := "from __future__ imports must occur at the beginning of the file"

def mayHoldKeywords (kind : Kind) : Bool :=
  kind = .group || kind = .row || kind = .arguments || kind = .keyword || kind = .doubleStarred

def ofArgument (usage : Usage) : Usage := if usage = .positional then .item else usage

mutual

def walk (here : Setting) (usage : Usage) : Tree → Except Fault PUnit
  | .leaf token => checkName usage token
  | .node kind line parts =>
      if usage = .keywords && !mayHoldKeywords kind then .ok ()
      else
      match kind, parts with
      | .starred, parts =>
          match ofArgument usage with
          | .item => walkAll here .load parts
          | .storeItem => walkAll here .store parts
          | .store => wrong line "starred assignment target must be in a list or tuple"
          | _ => wrong line "can't use starred expression here"
      | .tuple, parts => do
          checkUnpacking usage line parts
          walkAll here usage.ofElement parts
      | .listDisplay, parts => do
          checkUnpacking usage line parts
          walkAll here usage.ofElement parts
      | .setDisplay, parts => walkAll here .item parts
      | .parameter, _ => .ok ()
      | .defaulted, _ :: default => walkAll here .load default
      | .attribute, value :: name => do
          walk here .load value
          match name, usage with
          | [.leaf token], .store => checkBinding line token.text
          | [.leaf token], .storeItem => checkBinding line token.text
          | _, _ => .ok ()
      | .subscript, [value, index] => do
          if !usage.isStore && usage ≠ .delete && (Constant.ofTree? (.node kind line parts)).isNone then
            checkSubscript line value index
          walk here .load value
          walk here .load index
      | .call, callee :: arguments => do
          checkKeywords line (arguments.flatMap Tree.elements)
          checkCallee line callee
          walk here .load callee
          walkAll here .positional arguments
          walkAll here .keywords arguments
      | .keyword, [_, value] => if usage = .positional then .ok () else walk here .load value
      | .doubleStarred, parts => if usage = .positional then .ok () else walkAll here .load parts
      | .arguments, parts => walkAll here usage parts
      | .compare, [left, .node .row _ rest] => do
          checkIdentity line false (mayBeIdentical left) rest
          walk here .load left
          walkAll here .load rest
      | .inversion, [.node .compare inner [left, .node .row _ [part]]] => do
          checkIdentity inner true (mayBeIdentical left) [part]
          walk here .load left
          walk here .load part
      | .conditional, [body, test, otherwise] => do
          walk here .load test
          walk here .load body
          walk here .load otherwise
      | .assertStmt, test :: rest => do
          checkAssertion line test
          walk here .load test
          walkAll here .load rest
      | .assignStmt, targets :: value => do
          walkAll here .load value
          walk here .store targets
      | .augmentedStmt, target :: value => do
          walkParts here target
          walkAll here .load value
          checkBound line target
      | .annotatedStmt, target :: _ :: value => do
          walkAll here .load value
          walk here .store target
      | .annotatedPlace, target :: _ :: value => do
          walkAll here .load value
          if value.all Tree.isAbsent then
            match target with
            | .leaf token => checkBinding line token.text
            | .node .attribute _ [_, .leaf token] => checkBinding line token.text
            | _ => .ok ()
            walkParts here target
          else walk here .store target
      | .namedExpr, target :: value => do
          walkAll here .load value
          walk here .store target
      | .deleteStmt, parts => walkAll here .delete parts
      | .returnStmt, parts => do
          checkReturn here line parts
          walkAll here .load parts
          leaveAll line here.frames
      | .breakStmt, _ => leaveLoop line "'break' outside loop" here.frames
      | .continueStmt, _ => leaveLoop line "'continue' not properly in loop" here.frames
      | .importFrom, [_, module?, names] => do
          if isFuture module? && here.futureLine < line then wrong line lateFuture
          checkImports line [names]
      | .importStmt, names => checkImports line names
      | .importRelative, [_, names] => checkImports line [names]
      | .globalStmt, _ => .ok ()
      | .nonlocalStmt, _ => .ok ()
      | .functionDef, [name, parameters, _, body] => do
          (parameterNames parameters).forM (checkBinding line)
          walk here .defaults parameters
          walk (here.inFunction false (conduct body)) .load body
          checkBound line name
      | .asyncFunctionDef, [name, parameters, _, body] => do
          (parameterNames parameters).forM (checkBinding line)
          walk here .defaults parameters
          walk (here.inFunction true (conduct body)) .load body
          checkBound line name
      | .lambdaExpr, [parameters, body] => do
          (parameterNames parameters).forM (checkBinding line)
          walk here .defaults parameters
          walk (here.inFunction false (conduct body)) .load body
      | .classDef, [name, bases, body] => do
          walk { unit := .classBody, futureLine := here.futureLine } .load body
          checkKeywords line bases.elements
          walk here .positional bases
          walk here .keywords bases
          checkBound line name
      | .whileStmt, [test, body, otherwise] => do
          let inside ← enter here line .loop
          walk inside .load test
          walk inside .load body
          walk here .load otherwise
      | .forStmt, [target, items, body, otherwise] => do
          let inside ← enter here line .loop
          walk inside .load items
          walk inside .store target
          walk inside .load body
          walk here .load otherwise
      | .asyncForStmt, [target, items, body, otherwise] => do
          checkAsync here line "async for"
          walk here .load items
          let inside ← enter here line .loop
          walk inside .store target
          walk inside .load body
          walk here .load otherwise
      | .withStmt, [.node .row _ items, body] => do
          let inside ← walkItems line here items
          walk inside .load body
      | .asyncWithStmt, [.node .row _ items, body] => do
          checkAsync here line "async with"
          let inside ← walkItems line here items
          walk inside .load body
      | .tryStmt, [body, final] => do
          let outcome := walk here .load final
          let inside ← enter here line (.final outcome)
          walk inside .load body
          outcome
      | .tryStmt, [body, .node .row _ handlers, otherwise, final] => do
          let outcome := walk here .load final
          let around ← if final.isAbsent then .ok here else enter here line (.final outcome)
          let inside ← enter around line .other
          walk inside .load body
          walk around .load otherwise
          let handling ← enter around line .other
          walkHandlers handling handlers
          outcome
      | .tryStarStmt, [body, .node .row _ handlers, otherwise, final] => do
          let outcome := walk here .load final
          let around ← if final.isAbsent then .ok here else enter here line (.final outcome)
          let inside ← enter around line .other
          walk inside .load body
          let handling ← enter around line .groupHandler
          walkHandlers handling handlers
          walk around .load otherwise
          outcome
      | .matchStmt, [subject, .node .row _ cases] => do
          walk here .load subject
          walkCases here cases
      | .awaitExpr, parts => do
          checkAwait here line
          walkAll here .load parts
      | .yieldExpr, parts => do
          checkYield here line false
          walkAll here .load parts
      | .yieldFrom, parts => do
          checkYield here line true
          walkAll here .load parts
      | .listComp, [element, clauses] => do
          checkWaiting here line (comprehensionWaits element clauses)
          walkClauses here.inComprehension clauses
          walk here.inComprehension .load element
          walkFirstItems here clauses
      | .setComp, [element, clauses] => do
          checkWaiting here line (comprehensionWaits element clauses)
          walkClauses here.inComprehension clauses
          walk here.inComprehension .load element
          walkFirstItems here clauses
      | .dictComp, [element, clauses] => do
          checkWaiting here line (comprehensionWaits element clauses)
          walkClauses here.inComprehension clauses
          walk here.inComprehension .load element
          walkFirstItems here clauses
      | .generator, [element, clauses] => do
          walkClauses here.inComprehension clauses
          walk here.inComprehension .load element
          walkFirstItems here clauses
      | .group, parts => walkAll here usage parts
      | .row, parts => walkAll here usage parts
      | .parameters, parts => walkAll here usage parts
      | _, parts => walkAll here .load parts

def walkAll (here : Setting) (usage : Usage) : List Tree → Except Fault PUnit
  | [] => .ok ()
  | tree :: rest => do
      walk here usage tree
      walkAll here usage rest

def walkParts (here : Setting) : Tree → Except Fault PUnit
  | .leaf _ => .ok ()
  | .node kind _ parts =>
      match kind, parts with
      | .attribute, value :: _ => walk here .load value
      | .subscript, parts => walkAll here .load parts
      | _, _ => .ok ()

def walkItems (line : Nat) (here : Setting) : List Tree → Except Fault Setting
  | [] => .ok here
  | .node _ _ (context :: target) :: rest => do
      walk here .load context
      let inside ← enter here line .other
      walkAll inside .store target
      walkItems line inside rest
  | _ :: rest => walkItems line here rest

def walkHandlers (here : Setting) : List Tree → Except Fault PUnit
  | [] => .ok ()
  | .node _ line [type, name, body] :: rest => do
      walk here .load type
      checkBound line name
      let inside ← enter here line .other
      walk inside .load body
      walkHandlers here rest
  | .node _ line [body] :: rest => do
      if !rest.isEmpty then wrong line "default 'except:' must be last"
      let inside ← enter here line .other
      walk inside .load body
      walkHandlers here rest
  | _ :: rest => walkHandlers here rest

def walkCases (here : Setting) : List Tree → Except Fault PUnit
  | [] => .ok ()
  | .node _ _ [pattern, guard, body] :: rest => do
      let _ ← Matching.names (!guard.isAbsent || rest.isEmpty) [] pattern
      walk here .load guard
      walk here .load body
      walkCases here rest
  | _ :: rest => walkCases here rest

def walkClauses (here : Setting) : Tree → Except Fault PUnit
  | .node _ _ (.node _ _ (target :: _ :: conditions) :: rest) => do
      walk here .store target
      walkAll here .load conditions
      walkMoreClauses here rest
  | _ => .ok ()

def walkMoreClauses (here : Setting) : List Tree → Except Fault PUnit
  | [] => .ok ()
  | .node _ _ (target :: items :: conditions) :: rest => do
      walk here .load items
      walk here .store target
      walkAll here .load conditions
      walkMoreClauses here rest
  | _ :: rest => walkMoreClauses here rest

def walkFirstItems (here : Setting) : Tree → Except Fault PUnit
  | .node _ _ (.node _ _ (_ :: items :: _) :: _) => walk here .load items
  | _ => .ok ()

end

def features : List String :=
  [ "nested_scopes", "generators", "division", "absolute_import", "with_statement",
    "print_function", "unicode_literals", "barry_as_FLUFL", "generator_stop", "annotations" ]

def featureFault? (line : Nat) (names : Tree) : Option Fault :=
  names.members.findSome? fun tree =>
    let name := match tree with
      | .leaf token => token.text
      | .node _ _ parts => (parts.head?.bind Tree.name?).getD ""
    if features.contains name then none
    else if name = "braces" then some ⟨line, "not a chance"⟩
    else some ⟨line, "future feature " ++ name ++ " is not defined"⟩

def isDocumentation (tree : Tree) : Bool :=
  match tree with
  | .node .expressionStmt _ [value] => value.kind? = some .strings && typeOf? value = some "str"
  | _ => false

-- The line of the last statement that asks for features, which stand before all others; statements on the
-- line of the first other one are still looked at.
def futureLine (found : Nat) (other : Option Nat) : List Tree → Except Fault Nat
  | [] => .ok found
  | tree :: rest =>
      if (other.map fun line => decide (line < tree.line)).getD false then .ok found
      else
        match tree with
        | .node .importFrom line [_, module?, names] =>
            if isFuture module? then
              if other.isSome then .error ⟨line, lateFuture⟩
              else
                match featureFault? line names with
                | some fault => .error fault
                | none => futureLine line other rest
            else futureLine found (some line) rest
        | tree =>
            futureLine found (if other.isNone && isDocumentation tree then none else some tree.line) rest

end Flow

end MarkupLint.Script
