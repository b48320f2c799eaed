set_option autoImplicit false

namespace MarkupLint.Csv

-- The marks that a table is written with. A doubled quote inside quotes stands for one, unless there is a
-- mark for escapes.
structure Dialect where
  delimiter : Char := ','
  quote : Char := '"'
  escape : Option Char := none
  doubledQuote : Bool := true
  skipsBlanks : Bool := true
deriving DecidableEq, Repr

inductive Stage where
  | startOfRow
  | startOfCell
  | escaped
  | inCell
  | inQuotes
  | escapedInQuotes
  | afterQuote
  | endOfRow
  | afterEscapedBreak
deriving DecidableEq, Repr

inductive Fault where
  | missingDelimiter
  | textAfterBreak
  | unexpectedEnd
deriving DecidableEq, Repr

structure Scan where
  stage : Stage := .startOfRow
  cell : List Char := []
  cells : List (List Char) := []
deriving Repr

namespace Scan

def add (scan : Scan) (c : Char) (stage : Stage) : Scan :=
  { scan with stage := stage, cell := c :: scan.cell }

def save (scan : Scan) (stage : Stage) : Scan :=
  { stage := stage, cell := [], cells := scan.cell.reverse :: scan.cells }

-- The stage after a cell that ends its row: `none` is the end of the line itself.
def close (scan : Scan) (sign : Option Char) : Scan :=
  scan.save (if sign.isNone then .startOfRow else .endOfRow)

end Scan

def isBreak (c : Char) : Bool := c = '\n' || c = '\r'

def stepStart (dialect : Dialect) (scan : Scan) : Option Char → Scan
  | none => scan.close none
  | some c =>
      if isBreak c then scan.close (some c)
      else if c = dialect.quote then { scan with stage := .inQuotes }
      else if some c = dialect.escape then { scan with stage := .escaped }
      else if c = ' ' && dialect.skipsBlanks then { scan with stage := .startOfCell }
      else if c = dialect.delimiter then scan.save .startOfCell
      else scan.add c .inCell

def stepCell (dialect : Dialect) (scan : Scan) : Option Char → Scan
  | none => scan.close none
  | some c =>
      if isBreak c then scan.close (some c)
      else if some c = dialect.escape then { scan with stage := .escaped }
      else if c = dialect.delimiter then scan.save .startOfCell
      else scan.add c .inCell

def step (dialect : Dialect) (scan : Scan) (sign : Option Char) : Except Fault Scan :=
  match scan.stage, sign with
  | .startOfRow, none => .ok scan
  | .startOfRow, some c =>
      .ok (if isBreak c then { scan with stage := .endOfRow } else stepStart dialect scan (some c))
  | .startOfCell, sign => .ok (stepStart dialect scan sign)
  | .escaped, none => .ok (scan.add '\n' .inCell)
  | .escaped, some c => .ok (scan.add c (if isBreak c then .afterEscapedBreak else .inCell))
  | .afterEscapedBreak, none => .ok scan
  | .afterEscapedBreak, some c => .ok (stepCell dialect scan (some c))
  | .inCell, sign => .ok (stepCell dialect scan sign)
  | .inQuotes, none => .ok scan
  | .inQuotes, some c =>
      .ok (if some c = dialect.escape then { scan with stage := .escapedInQuotes }
        else if c = dialect.quote then
          { scan with stage := if dialect.doubledQuote then .afterQuote else .inCell }
        else scan.add c .inQuotes)
  | .escapedInQuotes, sign => .ok (scan.add (sign.getD '\n') .inQuotes)
  | .afterQuote, none => .ok (scan.close none)
  | .afterQuote, some c =>
      if c = dialect.quote then .ok (scan.add c .inQuotes)
      else if c = dialect.delimiter then .ok (scan.save .startOfCell)
      else if isBreak c then .ok (scan.close (some c))
      else .error .missingDelimiter
  | .endOfRow, none => .ok { scan with stage := .startOfRow }
  | .endOfRow, some c => if isBreak c then .ok scan else .error .textAfterBreak

def stepLine (dialect : Dialect) (scan : Scan) (line : List Char) : Except Fault Scan :=
  (line.map some ++ [some '\n', none]).foldlM (step dialect) scan

def rowsFrom (dialect : Dialect) : Scan → List (List Char) → Except Fault (List (List (List Char)))
  | scan, [] =>
      if !scan.cell.isEmpty || scan.stage = .inQuotes then .error .unexpectedEnd else .ok []
  | scan, line :: rest => do
      let scan ← stepLine dialect scan line
      if scan.stage = .startOfRow then
        let rows ← rowsFrom dialect {} rest
        pure (scan.cells.reverse :: rows)
      else rowsFrom dialect scan rest

def rows (dialect : Dialect) (lines : List (List Char)) : Except Fault (List (List (List Char))) :=
  rowsFrom dialect {} lines

end MarkupLint.Csv
