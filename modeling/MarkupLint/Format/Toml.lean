import MarkupLint.Decimal
import MarkupLint.Text.Letter
import MarkupLint.Text.Quoted
import MarkupLint.Text.Search

set_option autoImplicit false

namespace MarkupLint.Toml

structure Date where
  year : Nat
  month : Nat
  day : Nat
deriving DecidableEq, Repr

def Date.isValid (date : Date) : Bool :=
  let leap := date.year % 4 = 0 && (date.year % 100 ≠ 0 || date.year % 400 = 0)
  let days := if date.month = 2 then if leap then 29 else 28
    else if [4, 6, 9, 11].contains date.month then 30
    else 31
  0 < date.year && date.day ≤ days

structure TimeOfDay where
  hour : Nat
  minute : Nat
  second : Nat
  micros : Nat
deriving DecidableEq, Repr

-- A date, a time of day, or both with the distance from universal time in minutes, if that is known.
inductive Moment where
  | date (date : Date)
  | time (time : TimeOfDay)
  | dateTime (date : Date) (time : TimeOfDay) (offset : Option Int)
deriving DecidableEq, Repr

inductive Value where
  | text (value : String)
  | whole (value : Int)
  | fraction (value : Binary64)
  | flag (value : Bool)
  | moment (moment : Moment)
  | array (items : List Value)
  | table (entries : List (String × Value))
deriving Repr

abbrev Table := List (String × Value)

abbrev Key := List String

def showKey (key : Key) : String :=
  match key with
  | [name] => "(" ++ Text.quote name ++ ",)"
  | names => "(" ++ String.intercalate ", " (names.map Text.quote) ++ ")"

inductive Cause where
  | statement
  | lineEnd
  | keyStart
  | equalsSign
  | tableEnd
  | arrayTableEnd
  | value
  | openArray
  | openTable
  | openText
  | expected (piece : String)
  | badChar (found : Char)
  | controlChar (found : Char)
  | backslash
  | hexDigits
  | notScalar
  | date
  | declaredTwice (key : Key)
  | redefined (key : Key)
  | frozen (key : Key)
  | overwritten
  | keyTwice (name : String)
deriving DecidableEq, Repr

def Cause.message : Cause → String
  | .statement => "Invalid statement"
  | .lineEnd => "Expected newline or end of document after a statement"
  | .keyStart => "Invalid initial character for a key part"
  | .equalsSign => "Expected '=' after a key in a key/value pair"
  | .tableEnd => "Expected ']' at the end of a table declaration"
  | .arrayTableEnd => "Expected ']]' at the end of an array declaration"
  | .value => "Invalid value"
  | .openArray => "Unclosed array"
  | .openTable => "Unclosed inline table"
  | .openText => "Unterminated string"
  | .expected piece => "Expected " ++ Text.quote piece
  | .badChar found => "Found invalid character " ++ Text.quote found.toString
  | .controlChar found => "Illegal character " ++ Text.quote found.toString
  | .backslash => "Unescaped '\\' in a string"
  | .hexDigits => "Invalid hex value"
  | .notScalar => "Escaped character is not a Unicode scalar value"
  | .date => "Invalid date or datetime"
  | .declaredTwice key => "Cannot declare " ++ showKey key ++ " twice"
  | .redefined key => "Cannot redefine namespace " ++ showKey key
  | .frozen key => "Cannot mutate immutable namespace " ++ showKey key
  | .overwritten => "Cannot overwrite a value"
  | .keyTwice name => "Duplicate inline table key " ++ Text.quote name

inductive Fault where
  | fault (cause : Cause) (left : Nat)
  | longNumber (digits : Nat)
deriving DecidableEq, Repr

def placeMessage (text : List Char) (left : Nat) : String :=
  if left = 0 then "end of document"
  else
    let before := text.take (text.length - left)
    let line := (before.filter (· = '\n')).length + 1
    let column := (before.reverse.takeWhile (· ≠ '\n')).length + 1
    "line " ++ toString line ++ ", column " ++ toString column

def replace (name : String) (value : Value) (table : Table) : Table :=
  table.map fun (other, old) => if other = name then (other, value) else (other, old)

def changeAt (enterArrays : Bool) (change : Table → Except Cause Table) : Key → Table →
    Except Cause Table
  | [], table => change table
  | name :: rest, table =>
      match table.lookup name with
      | none => do return table ++ [(name, .table (← changeAt enterArrays change rest []))]
      | some (.table inner) => do
          return replace name (.table (← changeAt enterArrays change rest inner)) table
      | some (.array items) =>
          match enterArrays, items.getLast? with
          -- An array stands for the last table in it.
          | true, some (.table inner) => do
              let last ← changeAt enterArrays change rest inner
              return replace name (.array (items.dropLast ++ [.table last])) table
          | _, _ => .error .overwritten
      | some _ => .error .overwritten

def appendTable (name : String) (table : Table) : Except Cause Table :=
  match table.lookup name with
  | none => .ok (table ++ [(name, .array [.table []])])
  | some (.array items) => .ok (replace name (.array (items ++ [.table []])) table)
  | some _ => .error .overwritten

def addValue (twice : Cause) (name : String) (value : Value) (table : Table) : Except Cause Table :=
  if (table.lookup name).isSome then .error twice else .ok (table ++ [(name, value)])

-- Keys of tables that were opened, of values that are complete, and of tables that the dotted keys of the
-- present section have made.
structure Marks where
  opened : List Key := []
  complete : List Key := []
  pending : List Key := []
deriving DecidableEq, Repr

namespace Marks

def isOpened (marks : Marks) (key : Key) : Bool := marks.opened.contains key

def isComplete (marks : Marks) (key : Key) : Bool := marks.complete.any (·.isPrefixOf key)

def setOpened (marks : Marks) (key : Key) : Marks := { marks with opened := key :: marks.opened }

def setComplete (marks : Marks) (key : Key) : Marks := { marks with complete := key :: marks.complete }

def addPending (marks : Marks) (key : Key) : Marks := { marks with pending := key :: marks.pending }

def settle (marks : Marks) : Marks := { marks with opened := marks.pending ++ marks.opened, pending := [] }

def forget (marks : Marks) (key : Key) : Marks :=
  { marks with
    opened := marks.opened.filter (!key.isPrefixOf ·)
    complete := marks.complete.filter (!key.isPrefixOf ·) }

end Marks

end MarkupLint.Toml
