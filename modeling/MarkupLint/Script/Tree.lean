import MarkupLint.Script.Token

set_option autoImplicit false

namespace MarkupLint.Script

inductive Kind where
  | group
  | row
  | absent
  | program
  | expressionStmt
  | assignStmt
  | annotatedStmt
  | annotatedPlace
  | augmentedStmt
  | returnStmt
  | raiseStmt
  | globalStmt
  | nonlocalStmt
  | deleteStmt
  | assertStmt
  | passStmt
  | breakStmt
  | continueStmt
  | importStmt
  | importFrom
  | importRelative
  | importName
  | dotted
  | decorated
  | classDef
  | functionDef
  | asyncFunctionDef
  | parameters
  | parameter
  | defaulted
  | ifStmt
  | whileStmt
  | forStmt
  | asyncForStmt
  | withStmt
  | asyncWithStmt
  | withItem
  | tryStmt
  | tryStarStmt
  | handler
  | matchStmt
  | matchCase
  | capturePattern
  | wildcardPattern
  | valuePattern
  | orPattern
  | asPattern
  | sequencePattern
  | starPattern
  | mappingPattern
  | mappingItem
  | mappingRest
  | classPattern
  | keywordPattern
  | tuple
  | listDisplay
  | setDisplay
  | dictDisplay
  | pair
  | dictUnpacking
  | listComp
  | setComp
  | dictComp
  | generator
  | clause
  | asyncClause
  | call
  | arguments
  | keyword
  | doubleStarred
  | starred
  | attribute
  | subscript
  | slice
  | boolOp
  | inversion
  | unary
  | binary
  | compare
  | comparePart
  | inPart
  | isPart
  | isNotPart
  | awaitExpr
  | yieldExpr
  | yieldFrom
  | lambdaExpr
  | conditional
  | namedExpr
  | strings
  | formatted
deriving DecidableEq, Repr

inductive Tree where
  | leaf (token : Token)
  | node (kind : Kind) (line : Nat) (parts : List Tree)
deriving Repr

namespace Tree

def line : Tree → Nat
  | .leaf token => token.line
  | .node _ line _ => line

def kind? : Tree → Option Kind
  | .leaf _ => none
  | .node kind _ _ => some kind

def isAbsent (tree : Tree) : Bool := tree.kind? = some .absent

def parts : Tree → List Tree
  | .leaf _ => []
  | .node _ _ parts => parts

def name? : Tree → Option String
  | .leaf token => if token.isName then some token.text else none
  | .node .. => none

mutual

-- The parts that a row or group stands for, however it is nested; another tree stands for itself.
def members : Tree → List Tree
  | .leaf token => [.leaf token]
  | .node kind line parts =>
      match kind with
      | .group | .row => membersOf parts
      | .absent => []
      | _ => [.node kind line parts]

def membersOf : List Tree → List Tree
  | [] => []
  | tree :: rest => members tree ++ membersOf rest

end

def elements (tree : Tree) : List Tree := membersOf tree.parts

def importedName? : List Tree → Option (String × Nat)
  | [name, as] =>
      match as.name?, name with
      | some bound, _ => some (bound, as.line)
      | none, .leaf token => some (token.text, token.line)
      | none, tree => firstOf tree
  | _ => none
where
  firstOf : Tree → Option (String × Nat)
    | .leaf token => some (token.text, token.line)
    | .node _ _ (first :: _) => firstOf first
    | .node _ _ [] => none

def title : Tree → String
  | .leaf token =>
      if token.kind = .number then "literal"
      else if token.text = "..." then "ellipsis"
      else if ["None", "True", "False"].contains token.text then token.text
      else "name"
  | .node kind _ _ =>
      match kind with
      | .attribute => "attribute"
      | .subscript => "subscript"
      | .starred => "starred"
      | .listDisplay => "list"
      | .tuple => "tuple"
      | .lambdaExpr => "lambda"
      | .call => "function call"
      | .generator => "generator expression"
      | .yieldExpr | .yieldFrom => "yield expression"
      | .awaitExpr => "await expression"
      | .listComp => "list comprehension"
      | .setComp => "set comprehension"
      | .dictComp => "dict comprehension"
      | .dictDisplay => "dict literal"
      | .setDisplay => "set display"
      | .formatted => "f-string expression"
      | .strings => "literal"
      | .compare => "comparison"
      | .conditional => "conditional expression"
      | .namedExpr => "named expression"
      | _ => "expression"

end Tree

inductive TargetUse where
  | assign
  | loop
  | delete
deriving DecidableEq, Repr

namespace TargetUse

def message (use : TargetUse) (tree : Tree) : String :=
  (if use = .delete then "cannot delete " else "cannot assign to ") ++ tree.title

mutual

def firstWrong (use : TargetUse) : Tree → Option Tree
  | .leaf token => if token.isName then none else some (.leaf token)
  | .node kind line parts =>
      match kind with
      | .group | .row | .tuple | .listDisplay => firstWrongOf use parts
      | .absent | .attribute | .subscript => none
      | .starred => if use = .delete then some (.node kind line parts) else firstWrongOf use parts
      -- A comparison that begins a loop holds the loop's target on its left.
      | .compare =>
          if use = .loop then
            match parts with
            | left :: rest => if comparesIn rest then firstWrong use left else none
            | [] => none
          else some (.node kind line parts)
      | _ => some (.node kind line parts)

def firstWrongOf (use : TargetUse) : List Tree → Option Tree
  | [] => none
  | tree :: rest => (firstWrong use tree).orElse fun _ => firstWrongOf use rest

def comparesIn : List Tree → Bool
  | [] => false
  | tree :: _ =>
      match tree with
      | .leaf _ => false
      | .node kind _ parts => kind = .inPart || (kind = .row && comparesIn parts)

end

end TargetUse

end MarkupLint.Script
