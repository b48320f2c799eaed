import MarkupLint.Failure
import MarkupLint.Text.Lines
import MarkupLint.Text.Search

set_option autoImplicit false

namespace MarkupLint.Code

def directiveStarts : List (List Char) :=
  [".. code::".toList, ".. code-block::".toList, ".. sourcecode::".toList]

def isCodeDirective (line : List Char) : Bool :=
  directiveStarts.any fun start => Text.startsWith start (Text.trim line)

def lastLine? (holds : List Char → Bool) (lines : List (List Char)) : Option Nat :=
  ((lines.zipIdx 1).filter fun (line, _) => holds line).getLast?.map (·.2)

def directiveLine (project : Bool) (source : String) (line : Option Int) :
    Except Failure (Option Int) :=
  match line with
  | none => .ok none
  | some line =>
      let lines := Text.splitLines source.toList
      if project then .ok (some line)
      else if line ≤ 1 then .ok none
      else if lines.length < line.toNat - 1 then .error .missingLine
      else .ok ((lastLine? isCodeDirective (lines.take (line.toNat - 1))).map fun n => (n : Int))

-- The lines from an index on; a negative index counts from the end.
def linesFrom (lines : List (List Char)) (index : Int) : List (List Char) :=
  if 0 ≤ index then lines.drop index.toNat else lines.drop ((lines.length : Int) + index).toNat

def lineAt? (lines : List (List Char)) (index : Int) : Option (List Char) :=
  let place := if 0 ≤ index then index else (lines.length : Int) + index
  if 0 ≤ place then lines[place.toNat]? else none

-- The first line of code under a directive that stands on the given line and has as many lines of options
-- as there are attributes beyond the usual ones.
def beginningBelow (source : String) (line : Int) (attributes : Nat) : Int :=
  let below := linesFrom (Text.splitLines source.toList) line
  let blank : Nat := (below.findIdx? fun text => !text.isEmpty).getD 0
  line + attributes - 1 + blank - 1 - 1

def hasText (line : List Char) : Bool := !Text.allBlank line

-- The first line of code of a block of some length that ends at or above the given line.
def beginningAbove (source : String) (line : Int) (length : Nat) : Except Failure Int :=
  let lines := Text.splitLines source.toList
  if ((lineAt? lines (line - 1)).map hasText).getD false then .ok (line - length + 1)
  else if line ≤ 1 then .error .noLineAbove
  else if lines.length < line.toNat - 1 then .error .missingLine
  else
    match lastLine? hasText (lines.take (line.toNat - 1)) with
    | some last => .ok ((last : Int) + 1 - length)
    | none => .ok (2 - (length : Int))

def beginning (project : Bool) (source raw : String) (line : Option Int) (attributes : Nat)
    (byClass : Bool) : Except Failure Int :=
  -- Blocks of a project stand below the line given, unless their language is among their classes.
  let below := project && !byClass
  match line with
  | none => .error (.noLine (if below then '+' else '-'))
  | some line =>
      if below then .ok (beginningBelow source line attributes)
      else beginningAbove source line (Text.splitLines raw.toList).length

end MarkupLint.Code
