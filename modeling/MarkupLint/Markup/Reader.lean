import MarkupLint.Markup.Marker

set_option autoImplicit false

namespace MarkupLint.Markup

-- Where blocks are read. `main` is the outermost reader of the document itself; `attached` tells that the
-- blocks go straight into the tree of the document, `titles` that titles may occur.
structure Context where
  main : Bool := false
  attached : Bool := false
  titles : Bool := false
  inSidebar : Bool := false
deriving DecidableEq, Repr

structure Reader where
  context : Context
  read : Context → List Line → Parse (List Node)

-- Nodes made from the first lines, and the lines after them. `jumped` tells that the reader went on by a
-- jump, and so past the end of its lines if nothing is left.
structure Built where
  nodes : List Node
  rest : List Line
  jumped : Bool := false

namespace Reader

def nested (reader : Reader) (lines : List Line) : Parse (List Node) := reader.read {} lines

def aside (reader : Reader) : Reader :=
  { reader with context := { reader.context with main := false } }

def moveTo (reader : Reader) (place : Place) : Parse Unit :=
  modify fun state =>
    { state with
      current := place
      main := if reader.context.main && state.level = 0 then place else state.main }

def moveOver (reader : Reader) (block : List Line) : Parse Unit := do
  match block.getLast? with
  | some line => reader.moveTo line.place
  | none => pure ()

def attach (reader : Reader) (nodes : List Node) : Parse (List Node) := do
  if reader.context.attached then
    let current := (← get).current
    pure (nodes.map fun node => if node.isMessage then node else node.placedAt current)
  else pure nodes

def attachOne (reader : Reader) (node : Node) : Parse Node := do
  if reader.context.attached then pure (node.placedAt (← get).current) else pure node

end Reader

def unindentWarning (settled : Bool) (name : String) (place : Place) : Parse (List Node) := do
  if settled then pure []
  else
    Parse.report .warning place (name ++ " ends without a blank line; unexpected unindent.")
    pure [Node.message]

def isIndentedText (line : Line) : Bool := line.startsIndented && !line.isBlank

def isPlainText (line : Line) : Bool :=
  !line.isBlank && !line.startsIndented && (match opening line.text with | .text => true | _ => false)

end MarkupLint.Markup
