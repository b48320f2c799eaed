import MarkupLint.Text.Lines
import MarkupLint.Text.Search

set_option autoImplicit false

namespace MarkupLint.Changelog

def homeAddress : String := "https://github.com/rstcheck/rstcheck-core"

def heading : String := "## Unreleased"

def isHeading (line : String) : Bool := Text.startsWith heading.toList line.toList

-- The last line with the heading; the first line stands for none.
def headingIndex (lines : List String) : Nat :=
  (lines.zipIdx.filter fun (line, _) => isHeading line).getLast?.map (·.2) |>.getD 0

def diffLink (range : String) : String := "[diff " ++ range ++ "](" ++ homeAddress ++ "/compare/" ++ range ++ ")"

structure Entry where
  version : String
  last : String
  day : String
deriving DecidableEq, Repr

def Entry.lines (entry : Entry) : List String :=
  [heading, "", diffLink (entry.version ++ "...main"), "",
    "## [" ++ entry.version ++ " (" ++ entry.day ++ ")](" ++ homeAddress ++ "/releases/" ++ entry.version ++ ")",
    "", diffLink (entry.last ++ "..." ++ entry.version)]

def updateLines (entry : Entry) (lines : List String) : List String :=
  let index := headingIndex lines
  let here := (lines.drop index).take 1
  let below := lines.drop (index + 1)
  lines.take index
    ++ (if index = 0 then here else entry.lines)
    -- The lines below the heading go whenever there are two; without a heading these are the lines
    -- below the first one.
    ++ (if 2 ≤ below.length then below.drop 2 else below)

def update (entry : Entry) (text : String) : String :=
  let lines := (Text.splitOnChar '\n' (Text.unifyLineEnds text.toList)).map String.ofList
  String.intercalate "\n" (updateLines entry lines)

end MarkupLint.Changelog
