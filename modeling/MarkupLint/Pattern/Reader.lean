import MarkupLint.Pattern.Basic

set_option autoImplicit false

namespace MarkupLint.Pattern

inductive Follow where
  | repetition
  | mark
  | nothing
deriving DecidableEq, Repr

structure Group where
  alternatives : List Pattern
  items : List (Pattern × Follow)
deriving DecidableEq, Repr

def Group.new : Group := ⟨[], []⟩

def sequenceOf (items : List (Pattern × Follow)) : Pattern :=
  items.foldl (fun rest item => .both item.1 rest) .empty

def choiceOf : Pattern → List Pattern → Pattern
  | last, [] => last
  | last, previous :: earlier => choiceOf (.either previous last) earlier

def Group.pattern (group : Group) : Pattern := choiceOf (sequenceOf group.items) group.alternatives

inductive ClassPart where
  | char (c : Char)
  | kind (item : ClassItem)
deriving DecidableEq, Repr

def ClassPart.item : ClassPart → ClassItem
  | .char c => .range c c
  | .kind item => item

-- A class being read. Its last part is pending, because with a dash behind it, it may begin a range.
structure OpenClass where
  set : CharClass
  pending : Option ClassPart
  dash : Bool
deriving DecidableEq, Repr

namespace OpenClass

def new (negated : Bool) : OpenClass := ⟨⟨negated, []⟩, none, false⟩

def isEmpty (current : OpenClass) : Bool := current.set.items.isEmpty && current.pending.isNone

def add? (current : OpenClass) (part : ClassPart) : Option OpenClass :=
  match current.pending, current.dash, part with
  | some (.char first), true, .char last =>
      if first ≤ last then
        some ⟨⟨current.set.negated, .range first last :: current.set.items⟩, none, false⟩
      else none
  | some _, true, _ => none
  | some previous, false, part =>
      some ⟨⟨current.set.negated, previous.item :: current.set.items⟩, some part, false⟩
  | none, _, part => some { current with pending := some part }

def close (current : OpenClass) : CharClass :=
  ⟨current.set.negated, (current.pending.map ClassPart.item).toList
    ++ (if current.dash then [.range '-' '-'] else []) ++ current.set.items⟩

end OpenClass

-- What stands behind a backslash. A code is read in its base, from the value of what has been read of it,
-- with so many digits to come; it may be shorter unless it is exact.
inductive Escape where
  | part (part : ClassPart)
  | anchor (pattern : Pattern)
  | code (base value left : Nat) (exact : Bool)
deriving DecidableEq, Repr

def escape? (inClass : Bool) (c : Char) : Option Escape :=
  match c with
  | 'd' => some (.part (.kind (.digit true)))
  | 'D' => some (.part (.kind (.digit false)))
  | 'w' => some (.part (.kind (.word true)))
  | 'W' => some (.part (.kind (.word false)))
  | 's' => some (.part (.kind (.blank true)))
  | 'S' => some (.part (.kind (.blank false)))
  | 'n' => some (.part (.char '\n'))
  | 't' => some (.part (.char '\t'))
  | 'r' => some (.part (.char '\r'))
  | 'f' => some (.part (.char (Char.ofNat 12)))
  | 'v' => some (.part (.char (Char.ofNat 11)))
  | 'a' => some (.part (.char (Char.ofNat 7)))
  | 'b' => some (if inClass then .part (.char (Char.ofNat 8)) else .anchor (.wordEdge true))
  | 'B' => some (.anchor (.wordEdge false))
  | 'A' => some (.anchor .textStart)
  | 'Z' => some (.anchor .lastEnd)
  | 'x' => some (.code 16 0 2 true)
  | 'u' => some (.code 16 0 4 true)
  | 'U' => some (.code 16 0 8 true)
  | '0' => some (.code 8 0 2 false)
  | c =>
      if '1' ≤ c && c ≤ '7' then some (.code 8 (Text.hexDigitValue c) 2 !inClass)
      else if Text.isAsciiLetter c || Text.isAsciiDigit c then none
      else some (.part (.char c))

def isCodeDigit (base : Nat) (c : Char) : Bool := Text.isHexDigit c && Text.hexDigitValue c < base

def codeChar? (base value : Nat) : Option Char :=
  if value.isValidChar && (base ≠ 8 || value < 256) then some (Char.ofNat value) else none

def countLimit : Nat := 4294967295

def count? (digits : List Char) : Option Nat :=
  let value := Text.digitsValue digits
  if digits.length ≤ Text.maxDigits && value < countLimit then some value else none

def counts? (least : List Char) : Option (List Char) → Option (Nat × Option Nat)
  | none => (count? least).map fun least => (least, some 0)
  | some [] => (count? least).map fun least => (least, none)
  | some most =>
      (count? least).bind fun least => (count? most).bind fun most =>
        if least ≤ most then some (least, some (most - least)) else none

inductive Mode where
  | plain
  | escape
  | opened
  | openedMark
  | classStart
  | classBody (current : OpenClass)
  | classEscape (current : OpenClass)
  | code (current : Option OpenClass) (base value left : Nat) (exact : Bool)
  | braces (least : List Char) (most : Option (List Char))
deriving DecidableEq, Repr

structure Reader where
  outer : List Group
  group : Group
  mode : Mode
deriving DecidableEq, Repr

namespace Reader

def new : Reader := ⟨[], .new, .plain⟩

def enter (reader : Reader) (mode : Mode) : Reader := { reader with mode := mode }

def push (reader : Reader) (item : Pattern) (follow : Follow) : Reader :=
  { reader with
    group := { reader.group with items := (item, follow) :: reader.group.items }
    mode := .plain }

def pushChar (reader : Reader) (c : Char) : Reader := reader.push (.char c) .repetition

def change? (reader : Reader) (kind : Follow) (change : Pattern → Pattern) (follow : Follow) :
    Option Reader :=
  match reader.group.items with
  | (item, allowed) :: rest =>
      if allowed = kind then
        some { reader with
          group := { reader.group with items := (change item, follow) :: rest }
          mode := .plain }
      else none
  | [] => none

def repeat? (reader : Reader) (least : Nat) (extra : Option Nat) : Option Reader :=
  reader.change? .repetition (fun item => .times item least extra) .mark

def question? (reader : Reader) : Option Reader :=
  match reader.repeat? 0 (some 1) with
  | some next => some next
  | none => reader.change? .mark id .nothing

def bar (reader : Reader) : Reader :=
  { reader with
    group := ⟨sequenceOf reader.group.items :: reader.group.alternatives, []⟩
    mode := .plain }

def openGroup (reader : Reader) : Reader :=
  { outer := reader.group :: reader.outer, group := .new, mode := .opened }

def closeGroup? (reader : Reader) : Option Reader :=
  match reader.outer with
  | [] => none
  | group :: outer =>
      some ({ outer := outer, group := group, mode := .plain : Reader }.push reader.group.pattern
        .repetition)

-- What has been read as it stands: braces without a count, and a code that could be longer.
def settle (reader : Reader) : Reader :=
  match reader.mode with
  | .braces least most =>
      ('{' :: least ++ (most.map (',' :: ·)).getD []).foldl pushChar reader
  | .code none _ value _ false => reader.pushChar (Char.ofNat value)
  | _ => reader

def plain? (reader : Reader) (c : Char) : Option Reader :=
  if c = '\\' then some (reader.enter .escape)
  else if c = '|' then some reader.bar
  else if c = '(' then some reader.openGroup
  else if c = ')' then reader.closeGroup?
  else if c = '[' then some (reader.enter .classStart)
  else if c = '.' then some (reader.push .anyChar .repetition)
  else if c = '^' then some (reader.push .textStart .nothing)
  else if c = '$' then some (reader.push .textEnd .nothing)
  else if c = '*' then reader.repeat? 0 none
  else if c = '+' then reader.repeat? 1 none
  else if c = '?' then reader.question?
  else if c = '{' then some (reader.enter (.braces [] none))
  else some (reader.pushChar c)

def escaped? (reader : Reader) (c : Char) : Option Reader :=
  (escape? false c).map fun
    | .part (.char c) => reader.pushChar c
    | .part (.kind item) => reader.push (.one ⟨false, [item]⟩) .repetition
    | .anchor pattern => reader.push pattern .nothing
    | .code base value left exact => reader.enter (.code none base value left exact)

def addPart? (reader : Reader) (current : OpenClass) (part : ClassPart) : Option Reader :=
  (current.add? part).map fun current => reader.enter (.classBody current)

def inClass? (reader : Reader) (current : OpenClass) (c : Char) : Option Reader :=
  if c = ']' && !current.isEmpty then some (reader.push (.one current.close) .repetition)
  else if c = '-' && current.pending.isSome && !current.dash then
    some (reader.enter (.classBody { current with dash := true }))
  else if c = '\\' then some (reader.enter (.classEscape current))
  else reader.addPart? current (.char c)

def classEscaped? (reader : Reader) (current : OpenClass) (c : Char) : Option Reader :=
  (escape? true c).bind fun
    | .part part => reader.addPart? current part
    | .anchor _ => none
    | .code base value left exact => some (reader.enter (.code (some current) base value left exact))

def endCode? (reader : Reader) (base value : Nat) : Option OpenClass → Option Reader
  | none => (codeChar? base value).map reader.pushChar
  | some current => (codeChar? base value).bind fun c => reader.addPart? current (.char c)

def afterCode? (reader : Reader) (base value : Nat) (c : Char) : Option OpenClass → Option Reader
  | none => reader.settle.plain? c
  | some current =>
      (codeChar? base value).bind fun last => (current.add? (.char last)).bind fun current =>
        reader.inClass? current c

def inCode? (reader : Reader) (current : Option OpenClass) (base value left : Nat) (exact : Bool)
    (c : Char) : Option Reader :=
  if isCodeDigit base c then
    let value := value * base + Text.hexDigitValue c
    if left ≤ 1 then reader.endCode? base value current
    else some (reader.enter (.code current base value (left - 1) exact))
  else if exact then none
  else reader.afterCode? base value c current

def inBraces? (reader : Reader) (least : List Char) (most : Option (List Char)) (c : Char) :
    Option Reader :=
  if Text.isAsciiDigit c then
    some (reader.enter (match most with
      | none => .braces (least ++ [c]) none
      | some most => .braces least (some (most ++ [c]))))
  else if c = ',' && most.isNone then some (reader.enter (.braces least (some [])))
  else if c = '}' && (!least.isEmpty || most.isSome) then
    (counts? least most).bind fun (least, extra) => reader.repeat? least extra
  else reader.settle.plain? c

def step? (reader : Reader) (c : Char) : Option Reader :=
  match reader.mode with
  | .plain => reader.plain? c
  | .escape => reader.escaped? c
  | .opened => if c = '?' then some (reader.enter .openedMark) else (reader.enter .plain).plain? c
  | .openedMark => if c = ':' then some (reader.enter .plain) else none
  | .classStart =>
      if c = '^' then some (reader.enter (.classBody (.new true))) else reader.inClass? (.new false) c
  | .classBody current => reader.inClass? current c
  | .classEscape current => reader.classEscaped? current c
  | .code current base value left exact => reader.inCode? current base value left exact c
  | .braces least most => reader.inBraces? least most c

def run? : Reader → List Char → Option Reader
  | reader, [] => some reader
  | reader, c :: rest =>
      match reader.step? c with
      | some next => run? next rest
      | none => none

def finish? (reader : Reader) : Option Pattern :=
  let settled := reader.settle
  if settled.outer.isEmpty && settled.mode = .plain then some settled.group.pattern else none

end Reader

def ofText? (text : String) : Option Pattern := (Reader.new.run? text.toList).bind Reader.finish?

end MarkupLint.Pattern
