import MarkupLint.Markup.Reader
import MarkupLint.Text.Width

set_option autoImplicit false

namespace MarkupLint.Markup

def widePad : Char := Char.ofNat 0

def padWide (text : List Char) : List Char :=
  text.flatMap fun c => if Text.wideSet.contains c then [c, widePad] else [c]

def unpadWide (text : List Char) : List Char := text.filter (· ≠ widePad)

def padLine (line : Line) : Line := { line with text := padWide line.text }

-- What is wrong with a table: a text and the number of the table's line that it concerns, from nought; or
-- that its cells lie over each other.
inductive TableFault where
  | malformed (text : String) (offset : Nat)
  | overlap
deriving DecidableEq, Repr

structure TableShape where
  columns : Nat
  blocks : List (List Line)

def columnPlaces (text : List Char) : List Nat :=
  (text.zipIdx.filter fun (c, _) => !Text.combiningSet.contains c).map (·.2)

def placeOfColumn (text : List Char) (column : Nat) : Nat :=
  let places := columnPlaces text
  places.getD column (column + (text.length - places.length))

-- The parts of lines between two columns. The bounds found in a line are those for the next one, which only
-- differ after marks that combine.
def slices : Nat → Nat → List Line → List Line × Nat
  | _, right, [] => ([], right)
  | left, right, line :: rest =>
      let left := placeOfColumn line.text left
      let right := placeOfColumn line.text right
      let (others, last) := slices left right rest
      ({ line with text := Text.trimRight ((line.text.take right).drop left) } :: others, last)

def cutColumns (left right : Nat) (lines : List Line) : List Line :=
  let (parts, last) := slices left right lines
  let indent := (parts.filter fun line => !line.text.isEmpty).foldl
    (fun least line => min least line.indent) right
  let shift := if 0 < indent && indent < last then indent else 0
  parts.map fun line =>
    { line with text := unpadWide (line.text.drop shift), reported := line.reported.down 1 }

def splitHead (isSeparator : List Char → Bool) (lines : List Line) :
    Except TableFault (List Line × Option Nat) :=
  let found := (lines.zipIdx.filter fun (line, _) => isSeparator line.text).map (·.2)
  let dashed := lines.map fun line =>
    if isSeparator line.text then
      { line with text := line.text.map fun c => if c = '=' then '-' else c }
    else line
  match found with
  | [] => .ok (lines, none)
  | [place] =>
      if place = 1 || place + 1 = lines.length then
        .error (.malformed "The head/body row separator may not be the first or last line of the table."
          place)
      else .ok (dashed, some place)
  | first :: second :: _ =>
      .error (.malformed ("Multiple head/body row separators (table lines " ++ toString (first + 1)
        ++ " and " ++ toString (second + 1) ++ "); only one allowed.") second)

def gridChar (grid : Array (Array Char)) (row column : Nat) : Char :=
  (grid.getD row #[]).getD column ' '

def closedLeft (grid : Array (Array Char)) (top left bottom : Nat) : Bool :=
  (List.range (bottom - top - 1)).all fun k =>
    let c := gridChar grid (top + 1 + k) left
    c = '+' || c = '|'

def closedBottom (grid : Array (Array Char)) (left bottom right : Nat) : Bool :=
  gridChar grid bottom left = '+' && (List.range (right - left - 1)).all fun k =>
    let c := gridChar grid bottom (left + 1 + k)
    c = '+' || c = '-'

def scanDown (grid : Array (Array Char)) (top left right : Nat) : Nat → Nat → Option Nat
  | 0, _ => none
  | fuel + 1, row =>
      let c := gridChar grid row right
      if c = '+' && closedBottom grid left row right && closedLeft grid top left row then some row
      else if c = '+' || c = '|' then scanDown grid top left right fuel (row + 1)
      else none

def scanRight (grid : Array (Array Char)) (height top left : Nat) : Nat → Nat → Option (Nat × Nat)
  | 0, _ => none
  | fuel + 1, column =>
      let c := gridChar grid top column
      if c = '+' then
        match scanDown grid top left column (height - 1 - top) (top + 1) with
        | some bottom => some (bottom, column)
        | none => scanRight grid height top left fuel (column + 1)
      else if c = '-' then scanRight grid height top left fuel (column + 1)
      else none

structure Cell where
  top : Nat
  left : Nat
  bottom : Nat
  right : Nat
deriving Repr

namespace Cell

def columnEnds (grid : Array (Array Char)) (cell : Cell) : List Nat :=
  ((List.range (cell.right - cell.left)).map (cell.left + 1 + ·)).filter fun column =>
    gridChar grid cell.top column = '+'
      || (column < cell.right && gridChar grid cell.bottom column = '+')

def comesBefore (a b : Cell) : Bool := a.top < b.top || (a.top = b.top && a.left ≤ b.left)

end Cell

def insertCorner (corner : Nat × Nat) : List (Nat × Nat) → List (Nat × Nat)
  | [] => [corner]
  | other :: rest =>
      if corner.1 < other.1 || (corner.1 = other.1 && corner.2 ≤ other.2) then corner :: other :: rest
      else other :: insertCorner corner rest

-- The cells of a grid, row by row. `done` holds for each column how far down it has been read.
def gridCells (grid : Array (Array Char)) (height width : Nat) :
    Nat → List Int → List (Nat × Nat) → Except TableFault (List Cell × List Int)
  | 0, done, _ => .ok ([], done)
  | _ + 1, done, [] => .ok ([], done)
  | fuel + 1, done, (top, left) :: corners =>
      if top + 1 = height || left + 1 = width || (top : Int) ≤ done.getD left (-1) then
        gridCells grid height width fuel done corners
      else
        match scanRight grid height top left (width - 1 - left) (left + 1) with
        | none => gridCells grid height width fuel done corners
        | some (bottom, right) =>
            if ((done.take right).drop left).any (· ≠ (top : Int) - 1) then .error .overlap
            else
              let marked := done.zipIdx.map fun (depth, column) =>
                if left ≤ column && column < right then (bottom : Int) - 1 else depth
              (gridCells grid height width fuel marked
                (insertCorner (top, right) (insertCorner (bottom, left) corners))).map
                fun (cells, final) => (⟨top, left, bottom, right⟩ :: cells, final)

def isHeadRule (text : List Char) : Bool :=
  match text with
  | '+' :: '=' :: _ => isGridBorder (text.map fun c => if c = '=' then '-' else c) && !text.contains '-'
  | _ => false

def gridShape (block : List Line) : Except TableFault TableShape := do
  let (lines, _) ← splitHead isHeadRule block
  let grid := (lines.map fun line => line.text.toArray).toArray
  let height := lines.length
  let width := (lines.head?.map (·.text.length)).getD 0
  let (cells, done) ← gridCells grid height width (4 * height * width + 4)
    (List.replicate width (-1)) [(0, 0)]
  if (done.take (width - 1)).all fun depth => depth = (height : Int) - 2 then
    let sorted := cells.mergeSort Cell.comesBefore
    pure
      { columns := (sorted.flatMap (·.columnEnds grid)).eraseDups.length
        blocks := sorted.map fun cell =>
          cutColumns (cell.left + 1) cell.right ((lines.take cell.bottom).drop (cell.top + 1)) }
  else throw (.malformed "Malformed table; parse incomplete." 0)

def dashColumns (start : Nat) : Nat → List Char → List (Nat × Nat)
  | 0, _ => []
  | fuel + 1, text =>
      let gap := (text.takeWhile (· ≠ '-')).length
      let after := text.drop gap
      if after.isEmpty then []
      else
        let length := (after.takeWhile (· ≠ ' ')).length
        (start + gap, start + gap + length) :: dashColumns (start + gap + length) fuel (after.drop length)

structure SimpleTable where
  columns : List (Nat × Nat)
  borderEnd : Nat
  blocks : List (List Line)

def lastEnd (columns : List (Nat × Nat)) : Nat := (columns.getLast?.map (·.2)).getD 0

def withLastEnd (last : Nat) (columns : List (Nat × Nat)) : List (Nat × Nat) :=
  match columns.reverse with
  | (start, _) :: rest => ((start, last) :: rest).reverse
  | [] => []

def spanColumns (table : SimpleTable) (rule : List Char) (offset : Nat) :
    Except TableFault (List (Nat × Nat)) :=
  let columns := dashColumns 0 (rule.length + 1) rule
  if lastEnd columns ≠ table.borderEnd then
    .error (.malformed ("Column span incomplete in table line " ++ toString (offset + 1) ++ ".") offset)
  else .ok (withLastEnd (lastEnd table.columns) columns)

def spansFit : Nat → List (Nat × Nat) → List (Nat × Nat) → Bool
  | _, [], _ => true
  | 0, _, _ => false
  | _ + 1, _ :: _, [] => false
  | fuel + 1, (start, finish) :: spans, (columnStart, columnEnd) :: columns =>
      if start = columnStart then
        let rest := ((columnStart, columnEnd) :: columns).dropWhile fun column => column.2 ≠ finish
        if rest.isEmpty then false else spansFit fuel spans (rest.drop 1)
      else false

def withoutCombining (text : List Char) : List Char :=
  text.filter fun c => !Text.combiningSet.contains c

def marginFault? (columns : List (Nat × Nat)) (first : Nat) (texts : List (List Char)) :
    Option TableFault :=
  (columns.zip (columns.drop 1)).findSome? fun (column, next) =>
    (texts.zipIdx.find? fun (text, _) =>
      !Text.allBlank ((text.take next.1).drop column.2)).map fun (_, offset) =>
        .malformed ("Text in column margin in table line " ++ toString (first + offset + 1) ++ ".")
          (first + offset)

def addRow (table : SimpleTable) (lines : List Line) (first : Nat) (rule : Option (List Char × Nat)) :
    Except TableFault SimpleTable := do
  if lines.isEmpty && rule.isNone then pure table
  else
    let columns ← match rule with
      | some (text, offset) => spanColumns table text offset
      | none => pure table.columns
    let texts := lines.map fun line => withoutCombining line.text
    match marginFault? columns first texts with
    | some fault => throw fault
    | none =>
        let lastStart := (columns.getLast?.map (·.1)).getD 0
        let reach := texts.foldl
          (fun furthest text =>
            if Text.allBlank (text.drop (lastEnd columns)) then furthest
            else max furthest (lastStart + (Text.trimRight (text.drop lastStart)).length))
          (lastEnd columns)
        let columns := withLastEnd reach columns
        let table := { table with
          columns := withLastEnd (max (lastEnd table.columns) reach) table.columns }
        if spansFit (columns.length + 1) (withLastEnd (lastEnd table.columns) columns) table.columns then
          pure { table with
            blocks := table.blocks ++ columns.map fun (start, finish) => cutColumns start finish lines }
        else
          throw (.malformed ("Column span alignment problem in table line " ++ toString (first + 2) ++ ".")
            (first + 1))

def isSpanRule (text : List Char) : Bool :=
  text.head? = some '-' && text.all fun c => c = '-' || c = ' '

def simpleRows : SimpleTable → List Line → Nat → Bool → Nat → List Line → Except TableFault SimpleTable
  | table, _, _, _, _, [] => .ok table
  | table, row, start, found, offset, line :: rest =>
      let (firstStart, firstEnd) := table.columns.headD (0, 0)
      if isSpanRule line.text then
        match addRow table row start (some (Text.trimRight line.text, offset)) with
        | .error fault => .error fault
        | .ok table => simpleRows table [] (offset + 1) false (offset + 1) rest
      else if !Text.allBlank ((line.text.take firstEnd).drop firstStart) then
        match if found && !row.isEmpty then addRow table row start none else .ok table with
        | .error fault => .error fault
        | .ok table => simpleRows table [line] offset true (offset + 1) rest
      else if found then simpleRows table (row ++ [line]) start found (offset + 1) rest
      else simpleRows table [] (offset + 1) false (offset + 1) rest

def isEqualsRule (text : List Char) : Bool :=
  text.head? = some '=' && text.all fun c => c = '=' || c = ' '

def dashRule (line : Line) : Line :=
  { line with text := line.text.map fun c => if c = '=' then '-' else c }

def simpleShape (block : List Line) : Except TableFault TableShape := do
  match block with
  | top :: others =>
      let bottom := (others.getLast?.map dashRule).toList
      let (lines, _) ← splitHead isEqualsRule (dashRule top :: others.dropLast ++ bottom)
      match lines with
      | top :: rows =>
          let columns := dashColumns 0 (top.text.length + 1) top.text
          let table ← simpleRows ⟨columns, lastEnd columns, []⟩ [] 1 false 1 rows
          pure ⟨table.columns.length, table.blocks⟩
      | [] => pure ⟨0, []⟩
  | [] => pure ⟨0, []⟩

structure TableCut where
  block : List Line
  fault : Option TableFault
  settled : Bool
  rest : List Line
  indentedAt : Option Place := none

def gridCut (lines : List Line) : TableCut :=
  let text := lines.takeWhile fun line => !line.isBlank && !line.startsIndented
  let edged := text.takeWhile fun line => line.text.head? = some '+' || line.text.head? = some '|'
  let indentedAt := ((lines.drop text.length).head?.filter isIndentedText).map (·.place)
  let settled := edged.length = text.length && indentedAt.isNone
  let padded := edged.map padLine
  let width := (padded.head?.map (·.text.length)).getD 0
  let ends := (padded.zipIdx.filter fun (line, place) => 2 ≤ place && isGridBorder line.text).map (·.2)
  let whole := (padded.getLast?.map fun line => isGridBorder line.text).getD false
  match if whole then some (padded.length - 1) else ends.getLast? with
  | none =>
      ⟨edged, some (.malformed "Bottom border missing or corrupt." 0), false, lines.drop edged.length,
        indentedAt⟩
  | some last =>
      let block := padded.take (last + 1)
      let settled := settled && whole
      let rest := lines.drop block.length
      let aligned := block.all fun line => line.text.length = width
        && (line.text.getLast? = some '+' || line.text.getLast? = some '|')
      if aligned then ⟨block, none, settled, rest, indentedAt⟩
      else
        ⟨edged.take (last + 1), some (.malformed "Right border not aligned or missing." 0), settled, rest,
          indentedAt⟩

def simpleEnd (width : Nat) : Nat → Nat → Option Nat → List Line → Except (TableFault × Nat) Nat
  | _, place, found, [] =>
      match found with
      | some last =>
          .error (.malformed "No bottom table border found or no blank line after table bottom." 0,
            last + 1)
      | none => .error (.malformed "No bottom table border found." 0, place)
  | count, place, found, line :: rest =>
      if isEqualsRule line.text then
        if (Text.trim line.text).length ≠ width then
          .error (.malformed "Bottom border or header rule does not match top border." 0, place + 1)
        else if count = 1 || nextIsBlank rest then .ok (place + 1)
        else simpleEnd width (count + 1) (place + 1) (some place) rest
      else simpleEnd width count (place + 1) found rest

def simpleCut (lines : List Line) : TableCut :=
  match lines with
  | [] => ⟨[], none, true, [], none⟩
  | top :: below =>
      match simpleEnd (Text.trim top.text).length 0 1 none below with
      | .ok count =>
          let rest := lines.drop count
          ⟨(lines.take count).map padLine, none, nextIsBlank rest, rest, none⟩
      | .error (fault, count) =>
          let rest := lines.drop count
          ⟨lines.take count, some fault, nextIsBlank rest, rest, none⟩

def tableOf (reader : Reader) (shape : TableShape) : Parse Node := do
  let columns ← (List.range shape.columns).mapM fun _ => Parse.group "colspec" .unknown []
  let entries ← shape.blocks.mapM fun block => do
    let children ← if block.all (·.text.isEmpty) then pure [] else reader.nested block
    Parse.group "entry" .unknown children
  Parse.group "table" .unknown (columns ++ entries)

def columnCount (table : Node) : Nat := (table.children.filter (·.isGroup "colspec")).length

def malformedTable (block : List Line) : TableFault → Parse (List Node)
  | .overlap => throw .cellsOverlap
  | .malformed text offset => do
      Parse.report .error ((firstReported block).down offset) ("Malformed table.\n" ++ text)
        [String.ofList (unpadWide (joinLines block))]
      pure [Node.message]

def table (reader : Reader) (cut : TableCut) (shape : List Line → Except TableFault TableShape) :
    Parse Built := do
  let indented ← match cut.indentedAt with
    | some place => do
        Parse.report .error place "Unexpected indentation."
        pure [Node.message]
    | none => pure []
  reader.moveOver cut.block
  let result : Except TableFault TableShape := match cut.fault with
    | some fault => .error fault
    | none => shape cut.block
  let nodes ← match result with
    | .error fault => malformedTable cut.block fault
    | .ok shape => do pure [← reader.attachOne (← tableOf reader shape)]
  let warning ← if cut.settled then pure []
    else do
      Parse.report .warning (reportedAfter cut.block cut.rest) "Blank line required after table."
      pure [Node.message]
  pure { nodes := nodes ++ indented ++ warning, rest := cut.rest }

end MarkupLint.Markup
