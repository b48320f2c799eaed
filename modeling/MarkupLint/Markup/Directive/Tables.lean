import MarkupLint.Format.Csv
import MarkupLint.Markup.Directive.Call
import MarkupLint.Markup.Directive.Source
import MarkupLint.Markup.Table
import MarkupLint.Markup.Target

set_option autoImplicit false

namespace MarkupLint.Markup.Directive

def tableTitle (call : Call) : Parse (List Node × List Node) := do
  if call.arguments.isEmpty then pure ([], [])
  else
    let (nodes, messages) ← call.inline call.argument
    pure ([← Parse.element .title call.place nodes], messages)

def finishTable (call : Call) (table : Node) (title messages : List Node) : Parse (List Node) := do
  Parse.updateFacts (table.key?.getD 0) fun facts =>
    { facts with classes := facts.classes ++ call.classes }
  let table ← call.named table
  pure (table.withChildren (title ++ table.children) :: messages)

def columnWidths? (call : Call) : Option (List Nat) :=
  (call.text? "widths").bind fun text =>
    if text = "auto" || text = "grid" then none else OptionValue.numbers? text

def widthFault? (call : Call) (columns : Nat) : Option String :=
  match columnWidths? call with
  | some widths =>
      if widths.length = columns then none
      else some ("\"" ++ call.name ++ "\" widths do not match the number of columns in table ("
        ++ toString columns ++ ").")
  | none => if columns = 0 then some "No table data detected in CSV file." else none

def contentFault (call : Call) (expected : String) : Parse (List Node) :=
  call.complain .error ("Error parsing content block for the \"" ++ call.name ++ "\" directive: "
    ++ expected)

def drawnTable (call : Call) : Parse (List Node) := do
  if call.content.isEmpty then
    call.complain .warning ("Content block expected for the \"" ++ call.name ++ "\" directive; none found.")
  else
    let (title, messages) ← tableTitle call
    let read ← call.reader.nested call.content
    match read with
    | [only] =>
        if !only.isGroup "table" then
          Parse.drop read
          contentFault call "exactly one table expected."
        else
          match (columnWidths? call).bind fun _ => widthFault? call (columnCount only) with
          | some fault => do
              Parse.drop read
              call.refuse .error fault
          | none => finishTable call only title messages
    | _ =>
        Parse.drop read
        contentFault call "exactly one table expected."

def dimensionFault? (call : Call) (rows : List Nat) : Option String :=
  let headers := call.count "header-rows"
  let stubs := call.count "stub-columns"
  let quoted := "\"" ++ call.name ++ "\" directive"
  if rows.length < headers then
    some (toString headers ++ " header row(s) specified but only " ++ toString rows.length
      ++ " row(s) of data supplied (" ++ quoted ++ ").")
  else if rows.length = headers && 0 < headers then
    some ("Insufficient data supplied (" ++ toString rows.length
      ++ " row(s)); no data remaining for table body, required by " ++ quoted ++ ".")
  else
    rows.findSome? fun columns =>
      if columns < stubs then
        some (toString stubs ++ " stub column(s) specified but only " ++ toString columns
          ++ " columns(s) of data supplied (" ++ quoted ++ ").")
      else if columns = stubs && 0 < stubs then
        some ("Insufficient data supplied (" ++ toString columns
          ++ " columns(s)); no data remaining for table body, required by " ++ quoted ++ ".")
      else none

def dialect (call : Call) : Csv.Dialect :=
  let mark (option : String) (read : String → Option (List Char)) : Option Char :=
    ((call.text? option).bind read).bind (·.head?)
  { delimiter := (mark "delim" OptionValue.characterOrBlank?).getD ','
    quote := (mark "quote" OptionValue.character?).getD '"'
    escape := mark "escape" OptionValue.character?
    doubledQuote := !call.has "escape"
    skipsBlanks := !call.has "keepspace" }

def headerDialect : Csv.Dialect := { escape := some '\\', doubledQuote := false }

def tableLines (call : Call) : Parse (Except (Severity × String) (List (List Char) × Option String)) := do
  let both := "The \"file\" and \"url\" options may not be simultaneously specified for the \"" ++ call.name
    ++ "\" directive."
  if !call.content.isEmpty then
    if call.has "file" || call.has "url" then
      pure (.error (.error, "\"" ++ call.name
        ++ "\" directive may not both specify an external file and have content."))
    else pure (.ok (call.content.map (·.text), (firstPlace call.content).source))
  else
    match call.text? "file", call.text? "url" with
    | some _, some _ => pure (.error (.error, both))
    | some file, none =>
        match (← readBeside call (joinedPath file)).2 with
        | .ok text => pure (.ok (Text.splitLines text, some file))
        | .error _ => pure (.error (.severe, "Problems with \"" ++ call.name ++ "\" directive path:"))
    | none, some address => pure (.error (.severe, "Problems with \"" ++ call.name ++ "\" directive URL \""
        ++ plainAddress (markEscapes address.toList) ++ "\":"))
    | none, none => pure (.error (.warning, "The \"" ++ call.name
        ++ "\" directive requires content; none supplied."))

-- A cell as a block of its own. Its lines are counted from one on; messages about their markup count on
-- from the start of the content.
def cellBlock (call : Call) (source : Option String) (cell : List Char) : List Line :=
  reportFrom call.contentReported
    ((Text.splitLines cell).zipIdx.map fun (text, count) =>
      .written ⟨source, some ((count : Int) + 1)⟩ text)

def rowLengths {α : Type} (rows : List (List α)) : List Nat := rows.map (·.length)

def csvTable (call : Call) : Parse (List Node) := do
  let (title, messages) ← tableTitle call
  match ← tableLines call with
  | .error (severity, text) => call.complain severity text
  | .ok (lines, source) =>
      let headers := match call.text? "header" with
        | some text => Csv.rows headerDialect (Text.splitOnChar '\n' text.toList)
        | none => .ok []
      match headers, Csv.rows (dialect call) lines with
      | .ok headers, .ok rows =>
          let columns := (rowLengths (headers ++ rows)).foldl max 0
          match dimensionFault? call (rowLengths rows), widthFault? call columns with
          | some fault, _ => call.complain .error fault
          | none, some fault => call.refuse .error fault
          | none, none =>
              let shape : TableShape :=
                { columns := columns
                  blocks := (headers.flatten.map (cellBlock call call.place.source))
                    ++ rows.flatten.map (cellBlock call source) }
              finishTable call (← tableOf call.reader shape) title messages
      | _, _ => call.complain .error ("Error with CSV data in \"" ++ call.name ++ "\" directive:")

def listRows (list : Node) : Except String (List (List Node)) := do
  let rows := list.children
  let cells := rows.map fun row => match row.children with
    | [only] => if only.isGroup "bullet_list" then some only.children else none
    | _ => none
  let columns := ((cells.head?.bind id).map (·.length)).getD 0
  let faults := cells.zipIdx.filterMap fun (row, place) =>
    match row with
    | none => some ("two-level bullet list expected, but row " ++ toString (place + 1)
        ++ " does not contain a second-level bullet list.")
    | some items =>
        if items.length = columns then none
        else some ("uniform two-level bullet list expected, but row " ++ toString (place + 1)
          ++ " does not contain the same number of items as row 1 (" ++ toString items.length ++ " vs "
          ++ toString columns ++ ").")
  match faults with
  | fault :: _ => throw fault
  | [] => pure (cells.filterMap id)

def listTable (call : Call) : Parse (List Node) := do
  if call.content.isEmpty then
    call.complain .error ("The \"" ++ call.name ++ "\" directive is empty; content required.")
  else
    let (title, messages) ← tableTitle call
    let read ← call.reader.nested call.content
    let list? := match read with
      | [only] => if only.isGroup "bullet_list" then some only else none
      | _ => none
    match list? with
    | none =>
        Parse.drop read
        contentFault call "exactly one bullet list expected."
    | some list =>
        match listRows list with
        | .error fault =>
            Parse.drop read
            contentFault call fault
        | .ok rows =>
            let columns := (rowLengths rows).foldl max 0
            match widthFault? call columns, dimensionFault? call (rowLengths rows) with
            | some fault, _ => do
                Parse.drop read
                call.refuse .error fault
            | none, some fault => do
                Parse.drop read
                call.complain .error fault
            | none, none =>
                let entries ← rows.flatten.mapM fun item =>
                  Parse.group "entry" .unknown item.children
                finishTable call (← Parse.group "table" .unknown entries) title messages

end MarkupLint.Markup.Directive
