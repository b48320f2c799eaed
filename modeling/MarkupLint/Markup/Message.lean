import MarkupLint.Text.Lines

set_option autoImplicit false

namespace MarkupLint

inductive Severity where
  | info
  | warning
  | error
  | severe
deriving DecidableEq, Repr

namespace Severity

def rank : Severity → Nat
  | .info => 1
  | .warning => 2
  | .error => 3
  | .severe => 4

def name : Severity → String
  | .info => "INFO"
  | .warning => "WARNING"
  | .error => "ERROR"
  | .severe => "SEVERE"

end Severity

namespace Markup

-- Where something stands: the text that it comes from and its line there, each as far as known. A place
-- without a text is in the document itself.
structure Place where
  source : Option String := none
  line : Option Int := none
deriving DecidableEq, Repr, Inhabited

namespace Place

def unknown : Place := {}

def ofLine (line : Int) : Place := { line := some line }

def isKnown (place : Place) : Bool :=
  (place.source.map fun source => !source.isEmpty).getD false || (place.line.map (· != 0)).getD false

def down (place : Place) (count : Int) : Place := { place with line := place.line.map (· + count) }

def fill (place other : Place) : Place :=
  { source := place.source.orElse fun _ => other.source
    line := place.line.orElse fun _ => other.line }

def within (outer own : Place) : Place := if own.isKnown then own else outer

end Place

def escapeMark : Char := Char.ofNat 0

def dropEscapes : List Char → List Char
  | [] => []
  | [c] => if c = escapeMark then [] else [c]
  | c :: d :: rest =>
      if c = escapeMark then
        if d = ' ' || d = '\n' then dropEscapes rest else dropEscapes (d :: rest)
      else c :: dropEscapes (d :: rest)

structure Message where
  severity : Severity
  place : Place
  text : String
  attached : List String := []
deriving DecidableEq, Repr

namespace Message

def category (message : Message) : String :=
  "(" ++ message.severity.name ++ "/" ++ toString message.severity.rank ++ ")"

def plainText (text : String) : String := String.ofList (dropEscapes text.toList)

def render (origin : String) (message : Message) : String :=
  message.place.source.getD origin ++ ":"
    ++ (match message.place.line with | some line => toString line | none => "") ++ ": "
    ++ message.category ++ " "
    ++ String.intercalate "\n\n" ((message.text :: message.attached).map plainText) ++ "\n"

end Message

def renderMessages (origin : String) (reportRank : Nat) (messages : List Message) : String :=
  String.join ((messages.filter fun message => reportRank ≤ message.severity.rank).map
    (·.render origin))

end Markup

end MarkupLint
