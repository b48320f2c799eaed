set_option autoImplicit false

namespace MarkupLint.Tool

inductive WordError where
  | openQuote
  | openEscape
deriving DecidableEq, Repr

def WordError.message : WordError → String
  | .openQuote => "No closing quotation"
  | .openEscape => "No escaped character"

inductive WordMode where
  | between
  | inside
  | quoted (mark : Char)
  | escaped (within : Option Char)
deriving DecidableEq, Repr

-- The words read so far, the last one first, and the word being read. A word with quotes may be empty.
structure WordReader where
  done : List String
  word : List Char
  hasQuotes : Bool
  mode : WordMode
deriving DecidableEq, Repr

namespace WordReader

def new : WordReader := ⟨[], [], false, .between⟩

def isGap (c : Char) : Bool := c = ' ' || c = '\t' || c = '\r' || c = '\n'

def isQuote (c : Char) : Bool := c = '\'' || c = '"'

def close (reader : WordReader) : WordReader :=
  if reader.word.isEmpty && !reader.hasQuotes then { reader with mode := .between }
  else ⟨String.ofList reader.word.reverse :: reader.done, [], false, .between⟩

def push (reader : WordReader) (c : Char) (mode : WordMode) : WordReader :=
  { reader with word := c :: reader.word, mode := mode }

def plain (reader : WordReader) (c : Char) : WordReader :=
  if isGap c then reader.close
  else if c = '\\' then { reader with mode := .escaped none }
  else if isQuote c then { reader with mode := .quoted c }
  else reader.push c .inside

def step (reader : WordReader) (c : Char) : WordReader :=
  match reader.mode with
  | .between => reader.plain c
  | .inside => reader.plain c
  | .quoted mark =>
      let reader := { reader with hasQuotes := true }
      if c = mark then { reader with mode := .inside }
      else if c = '\\' && mark = '"' then { reader with mode := .escaped (some mark) }
      else reader.push c (.quoted mark)
  | .escaped none => reader.push c .inside
  | .escaped (some mark) =>
      if c = '\\' || c = mark then reader.push c (.quoted mark)
      else (reader.push '\\' (.quoted mark)).push c (.quoted mark)

def finish (reader : WordReader) : Except WordError (List String) :=
  match reader.mode with
  | .quoted _ => .error .openQuote
  | .escaped _ => .error .openEscape
  | _ => .ok reader.close.done.reverse

end WordReader

def splitWords (text : String) : Except WordError (List String) :=
  (text.toList.foldl WordReader.step WordReader.new).finish

end MarkupLint.Tool
