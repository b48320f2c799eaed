import MarkupLint.Markup.Message
import MarkupLint.Text.Search

set_option autoImplicit false

namespace MarkupLint.Markup

-- A line of text. Its place is where it was written; messages about the markup in it are given at the
-- reported place, which differs where a block counts its lines in its own way.
structure Line where
  text : List Char
  place : Place
  reported : Place
deriving DecidableEq, Repr, Inhabited

namespace Line

def written (place : Place) (text : List Char) : Line := ⟨text, place, place⟩

def isBlank (line : Line) : Bool := Text.allBlank line.text

def startsIndented (line : Line) : Bool := line.text.head? = some ' '

def indent (line : Line) : Nat := (line.text.takeWhile Text.isBlank).length

def drop (count : Nat) (line : Line) : Line := { line with text := line.text.drop count }

end Line

def softenBreaks (text : List Char) : List Char :=
  text.map fun c => if c.toNat = 0x0b || c.toNat = 0x0c then ' ' else c

-- Tabs as the spaces up to the next multiple of a width; a width of nought drops them.
def expandTabs (width : Nat) : Nat → List Char → List Char
  | _, [] => []
  | column, c :: rest =>
      if c = '\t' then
        if width = 0 then expandTabs width column rest
        else List.replicate (width - column % width) ' '
          ++ expandTabs width (column + (width - column % width)) rest
      else c :: expandTabs width (column + 1) rest

def readableLines (tabWidth : Nat) (source : List Char) : List (List Char) :=
  (Text.splitLines (softenBreaks source)).map fun line => Text.trimRight (expandTabs tabWidth 0 line)

def placeLines (source : String) (texts : List (List Char)) : List Line :=
  (texts.zipIdx 1).map fun (text, number) => .written ⟨some source, some (number : Int)⟩ text

def documentLines (origin : String) (source : List Char) : List Line :=
  placeLines origin (readableLines 8 source)

def lineLimit : Nat := 10000

def joinLines (block : List Line) : List Char := Text.joinWith '\n' (block.map (·.text))

def dropLeadingBlank (block : List Line) : List Line := block.dropWhile (·.isBlank)

def dropTrailingBlank (block : List Line) : List Line :=
  (block.reverse.dropWhile (·.isBlank)).reverse

def reportFrom (start : Place) (block : List Line) : List Line :=
  block.zipIdx.map fun (line, count) => { line with reported := start.down count }

def firstPlace (block : List Line) : Place := (block.head?.map (·.place)).getD .unknown

def firstReported (block : List Line) : Place := (block.head?.map (·.reported)).getD .unknown

def lastPlace (block : List Line) (default : Place) : Place :=
  (block.getLast?.map (·.place)).getD default

def lastReported (block : List Line) : Place := (block.getLast?.map (·.reported)).getD .unknown

-- A block that was cut off the front of some lines. `settled` tells that a blank line or the end of the
-- lines follows its text.
structure Cut where
  block : List Line
  indent : Nat
  settled : Bool
  rest : List Line
deriving Repr

def commonIndent (block : List Line) : Nat :=
  match (block.filter (fun line => !line.isBlank)).map (·.indent) with
  | [] => 0
  | first :: others => others.foldl min first

def endsBlank (block : List Line) : Bool := (block.getLast?.map (·.isBlank)).getD false

def cutIndented (lines : List Line) : Cut :=
  let block := lines.takeWhile fun line => line.text.isEmpty || line.startsIndented
  let rest := lines.drop block.length
  let indent := commonIndent block
  { block := block.map (·.drop indent)
    indent := indent
    settled := rest.isEmpty || endsBlank block
    rest := rest }

def cutKnownIndent (indent : Nat) : List Line → Cut
  | [] => ⟨[], indent, true, []⟩
  | first :: lines =>
      let block := lines.takeWhile fun line =>
        line.text.isEmpty || (line.startsIndented && Text.allBlank (line.text.take indent))
      let rest := lines.drop block.length
      { block := first.drop indent :: block.map (·.drop indent)
        indent := indent
        settled := rest.isEmpty || endsBlank (first :: block)
        rest := rest }

-- The first line from a column on, and the lines after it that are blank or indented, without the
-- indentation that those share. With `untilBlank` the block ends before a blank line, and with `keepIndent`
-- the indentation stays.
def cutFirstKnown (indent : Nat) (untilBlank keepIndent : Bool) : List Line → Cut
  | [] => ⟨[], 0, true, []⟩
  | first :: lines =>
      let block := lines.takeWhile fun line =>
        if line.isBlank then (line.text.isEmpty || line.startsIndented) && !untilBlank
        else line.startsIndented
      let rest := lines.drop block.length
      let shared := commonIndent block
      let stoppedAtBlank := untilBlank && (rest.head?.map (·.isBlank)).getD false
      { block := first.drop indent :: (if keepIndent then block else block.map (·.drop shared))
        indent := shared
        settled := rest.isEmpty || stoppedAtBlank || endsBlank (first :: block)
        rest := rest }

def cutText (lines : List Line) : List Line × List Line :=
  let block := lines.takeWhile fun line => !line.isBlank
  (block, lines.drop block.length)

def nextIsBlank (rest : List Line) : Bool := (rest.head?.map (·.isBlank)).getD true

def reportedAfter (block rest : List Line) : Place :=
  match rest.head? with
  | some line => line.reported
  | none => (lastReported block).down 1

end MarkupLint.Markup
