import MarkupLint.Text.Case
import MarkupLint.Text.Digit

set_option autoImplicit false

namespace MarkupLint

inductive ReportLevel where
  | info
  | warning
  | error
  | severe
  | none
deriving DecidableEq, Repr

namespace ReportLevel

def all : List ReportLevel := [.info, .warning, .error, .severe, .none]

def rank : ReportLevel → Nat
  | .info => 1
  | .warning => 2
  | .error => 3
  | .severe => 4
  | .none => 5

def name : ReportLevel → String
  | .info => "INFO"
  | .warning => "WARNING"
  | .error => "ERROR"
  | .severe => "SEVERE"
  | .none => "NONE"

def ofRank? (rank : Int) : Option ReportLevel := all.find? fun level => (level.rank : Int) = rank

def ofName? (name : String) : Option ReportLevel :=
  all.find? fun level => Text.toFolded level.name = Text.toFolded name

def ofText? (text : String) : Option ReportLevel :=
  match ofName? text, Text.readInteger text with
  | some level, _ => some level
  | .none, .ok rank => ofRank? rank
  | .none, .error _ => .none

end ReportLevel

end MarkupLint
