import MarkupLint.Text.Letter
import MarkupLint.Text.Digit

set_option autoImplicit false

namespace MarkupLint

inductive ClassItem where
  | range (first last : Char)
  | digit (wanted : Bool)
  | word (wanted : Bool)
  | blank (wanted : Bool)
deriving DecidableEq, Repr

namespace ClassItem

def holds (c : Char) : ClassItem → Bool
  | .range first last => first ≤ c && c ≤ last
  | .digit wanted => Text.isDigit c == wanted
  | .word wanted => Text.isWordChar c == wanted
  | .blank wanted => Text.isBlank c == wanted

end ClassItem

structure CharClass where
  negated : Bool
  items : List ClassItem
deriving DecidableEq, Repr

def CharClass.contains (set : CharClass) (c : Char) : Bool :=
  (set.items.any (·.holds c)) != set.negated

inductive Pattern where
  | empty
  | one (set : CharClass)
  | textStart
  | textEnd
  | lastEnd
  | wordEdge (wanted : Bool)
  | both (first second : Pattern)
  | either (left right : Pattern)
  -- The body `least` times, and up to `extra` times more; without a bound if there is none.
  | times (body : Pattern) (least : Nat) (extra : Option Nat)
deriving DecidableEq, Repr

namespace Pattern

def char (c : Char) : Pattern := .one ⟨false, [.range c c]⟩

def anyChar : Pattern := .one ⟨true, [.range '\n' '\n']⟩

def andThen : Pattern → Pattern → Pattern
  | .empty, second => second
  | first, second => .both first second

structure Place where
  previous : Option Char
  rest : List Char
deriving DecidableEq, Repr

namespace Place

def atStart (place : Place) : Bool := place.previous.isNone

-- A line feed at the end of the text stands behind its end.
def atEnd (place : Place) : Bool := place.rest = [] || place.rest = ['\n']

def atLastEnd (place : Place) : Bool := place.rest.isEmpty

def atWordEdge (place : Place) : Bool :=
  place.previous.any Text.isWordChar != place.rest.head?.any Text.isWordChar

end Place

def skips (place : Place) : Pattern → Bool
  | .empty => true
  | .one _ => false
  | .textStart => place.atStart
  | .textEnd => place.atEnd
  | .lastEnd => place.atLastEnd
  -- A text without characters has no edges of words, and no places without them.
  | .wordEdge wanted => !(place.atStart && place.atLastEnd) && place.atWordEdge == wanted
  | .both first second => skips place first && skips place second
  | .either left right => skips place left || skips place right
  | .times body least _ => least = 0 || skips place body

-- What is left of a repetition after one pass: how many passes are due, and how many more may follow.
def passesLeft (skipped : Bool) : Nat → Option Nat → Option (Nat × Option Nat)
  | 0, none => some (0, none)
  | 0, some 0 => none
  | 0, some (extra + 1) => some (0, some extra)
  -- Where the body matches nothing as well, the passes that are due may have been of that kind.
  | least + 1, extra => some (if skipped then (0, extra.map (least + ·)) else (least, extra))

def after (place : Place) (c : Char) : Pattern → List Pattern
  | .empty => []
  | .one set => if set.contains c then [.empty] else []
  | .textStart => []
  | .textEnd => []
  | .lastEnd => []
  | .wordEdge _ => []
  | .both first second =>
      (after place c first).map (·.andThen second)
        ++ (if skips place first then after place c second else [])
  | .either left right => after place c left ++ after place c right
  | .times body least extra =>
      match passesLeft (skips place body) least extra with
      | none => []
      | some (least, extra) => (after place c body).map (·.andThen (.times body least extra))

-- Reads a text to its end. An attempt begins at each place; `pending` holds what is left of those begun
-- before.
def foundFrom (pattern : Pattern) (previous : Option Char) (pending : List Pattern) : List Char → Bool
  | [] => (pattern :: pending).any (skips ⟨previous, []⟩)
  | c :: rest =>
      let place : Place := ⟨previous, c :: rest⟩
      let attempts := pattern :: pending
      attempts.any (skips place)
        || foundFrom pattern (some c) (attempts.flatMap (after place c)).eraseDups rest

def foundIn (pattern : Pattern) (text : String) : Bool := foundFrom pattern none [] text.toList

end Pattern

end MarkupLint
