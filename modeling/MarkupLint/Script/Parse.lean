import MarkupLint.Script.Grammar
import MarkupLint.Text.Digit
import Std.Data.HashMap

set_option autoImplicit false

namespace MarkupLint.Script

inductive Halt where
  | scan (fault : Fault)
  | parse (reached : Nat) (fault : Fault)
deriving Repr

abbrev Match := Option (Tree × Nat)

structure Progress where
  results : Std.HashMap (Nat × Nat × Bool) Match := {}
  reached : Nat := 0

abbrev Parsing := StateT Progress (Except Halt)

structure Reader where
  grammar : Grammar
  scan : Scan
  strings : Nat → List Token → Except Fault Tree

namespace Reader

def openBracket (bracket : Char) (line : Nat) : Fault :=
  ⟨line, "'" ++ bracket.toString ++ "' was never closed"⟩

def stopFault? (scan : Scan) : Option Fault :=
  match scan.stop with
  | .finished => none
  | .wrong line error => some ⟨line, error.message⟩
  | .ended line =>
      match scan.brackets with
      | (bracket, opened) :: _ => some (openBracket bracket opened)
      | [] => some ⟨line, "unexpected EOF while parsing"⟩

def peek (reader : Reader) (place : Nat) : Parsing (Option Token) := do
  modify fun progress => { progress with reached := max progress.reached (place + 1) }
  match reader.scan.tokens[place]? with
  | some token => pure (some token)
  | none =>
      match stopFault? reader.scan with
      | some fault => throw (.scan fault)
      | none => pure none

def lastLine (reader : Reader) (reached : Nat) : Nat :=
  ((reader.scan.tokens[reached - 1]?).map (·.line)).getD 0

def lineAt (reader : Reader) (place : Nat) : Nat :=
  ((reader.scan.tokens[place]?).map (·.line)).getD (reader.lastLine reader.scan.tokens.size)

def take (reader : Reader) (test : Token → Bool) (place : Nat) : Parsing Match := do
  match ← reader.peek place with
  | some token => pure (if test token then some (.leaf token, place + 1) else none)
  | none => pure none

def titleOf : Tree → String
  | .leaf token => if token.isName then "name" else (Tree.leaf token).title
  | tree => tree.title

def fill (message : String) (first : Option Tree) : String :=
  match first with
  | none => message
  | some tree =>
      ((message.replace "%s" (titleOf tree)).replace "%d" (toString tree.line))

def bareNames : List String := ["print", "exec"]

def isBareName (tree : Tree) : Bool := ((tree.name?).map bareNames.contains).getD false

def positional (arguments : Tree) : List Tree :=
  arguments.elements.filter fun tree =>
    tree.kind? ≠ some .keyword && tree.kind? ≠ some .doubleStarred

def isImaginary (tree : Tree) : Bool :=
  match tree with
  | .leaf token => token.text.endsWith "j" || token.text.endsWith "J"
  | .node .. => false

def longNumber? (text : List Char) : Option Nat :=
  let digits := text.filter (· ≠ '_')
  if digits.all Text.isAsciiDigit && Text.maxDigits < digits.length then some digits.length else none

def longNumberMessage (digits : Nat) : String :=
  "Exceeds the limit (" ++ toString Text.maxDigits ++ " digits) for integer string conversion: "
    ++ "value has " ++ toString digits ++ " digits; use sys.set_int_max_str_digits() to increase "
    ++ "the limit - Consider hexadecimal for huge integer literals to avoid decimal conversion limits."

-- What an alternative that ends before a place makes of the items it kept; nothing if it does not apply
-- after all.
def act (reader : Reader) (action : Action) (start stop : Nat) (kept all : List Tree) :
    Parsing (Option Tree) := do
  let line := reader.lineAt start
  let reached := (← get).reached
  let last := reader.lastLine reached
  let complain (line : Nat) (message : String) : Parsing (Option Tree) :=
    throw (.parse reached ⟨line, message⟩)
  match action with
  | .keep =>
      pure (some (match kept, all with
        | [tree], _ => tree
        | [], [tree] => tree
        | kept, _ => .node .group line kept))
  | .make kind => pure (some (.node kind line kept))
  | .fault place message =>
      let at? := if place = .lastToken then none else kept.head?.map Tree.line
      complain (at?.getD last) (fill message kept.head?)
  | .target use =>
      match kept.head?.bind use.firstWrong with
      | some wrong => complain wrong.line (use.message wrong)
      | none => pure none
  | .bareCall =>
      match kept.head? with
      | some tree =>
          if isBareName tree then
            let name := (tree.name?).getD ""
            complain tree.line
              ("Missing parentheses in call to '" ++ name ++ "'. Did you mean " ++ name ++ "(...)?")
          else pure none
      | none => pure none
  | .missingComma =>
      let depth := ((reader.scan.tokens[stop - 1]?).map (·.depth)).getD 0
      match kept.head? with
      | some tree =>
          if isBareName tree || depth = 0 then pure none
          else complain tree.line "invalid syntax. Perhaps you forgot a comma?"
      | none => pure none
  | .bareGenerator =>
      match (kept.head?.map positional).getD [] |>.reverse with
      | argument :: _ :: _ => complain argument.line "Generator expression must be parenthesized"
      | _ => pure none
  | .lateArgument =>
      let unpacks := ((kept.head?.map Tree.elements).getD []).any (·.kind? = some .doubleStarred)
      complain last
        (if unpacks then "positional argument follows keyword argument unpacking"
          else "positional argument follows keyword argument")
  | .strings =>
      let tokens := (Tree.membersOf kept).filterMap fun
        | .leaf token => some token
        | .node .. => none
      match reader.strings last tokens with
      | .ok tree => pure (some tree)
      | .error fault => throw (.parse reached fault)
  | .number =>
      match kept with
      | .leaf token :: _ =>
          match longNumber? token.text.toList with
          | some digits => complain token.line (longNumberMessage digits)
          | none => pure (some (.leaf token))
      | _ => pure none
  | .realNumber =>
      match kept with
      | tree :: _ =>
          if isImaginary tree then complain tree.line "real number required in complex literal"
          else pure (some tree)
      | [] => pure none
  | .imaginaryNumber =>
      match kept with
      | tree :: _ =>
          if isImaginary tree then pure (some tree)
          else complain tree.line "imaginary number required in complex literal"
      | [] => pure none

structure Row where
  found : Option (List Tree × List Tree × Nat)
  final : Bool

mutual

-- Matches an item from a place on. With `explain`, alternatives that explain faults are tried.
def item (reader : Reader) : Nat → Bool → Item → Nat → Parsing Match
  | 0, _, _, _ => pure none
  | fuel + 1, explain, wanted, place =>
      match wanted with
      | .token kind => reader.take (·.kind = kind) place
      | .name => reader.take Token.isName place
      | .softKeyword => reader.take Token.isSoftKeyword place
      | .text text => reader.take (·.isText text) place
      | .soft text => reader.take (fun token => token.kind = .name && token.text = text) place
      | .needed text => do
          match ← reader.peek place with
          | some token =>
              if token.isText text then pure (some (.leaf token, place + 1))
              else throw (.parse (← get).reached ⟨token.line, "expected '" ++ text ++ "'"⟩)
          | none => pure none
      | .rule index => rule reader fuel explain index place
      | .kept inner => item reader fuel explain inner place
      | .choice alternatives => choice reader fuel explain alternatives place
      | .optional inner => do
          match ← item reader fuel explain inner place with
          | some found => pure (some found)
          | none => pure (some (.node .absent (reader.lineAt place) [], place))
      | .many inner => do
          let (trees, after) ← more reader fuel explain inner place
          pure (some (.node .row (reader.lineAt place) trees, after))
      | .some inner => do
          match ← more reader fuel explain inner place with
          | ([], _) => pure none
          | (trees, after) => pure (some (.node .row (reader.lineAt place) trees, after))
      | .separated separator inner => do
          match ← item reader fuel explain inner place with
          | none => pure none
          | some (first, after) =>
              let (others, after) ← moreSeparated reader fuel explain separator inner after
              pure (some (.node .row (reader.lineAt place) (first :: others), after))
      | .ahead inner => do
          match ← item reader fuel explain inner place with
          | some _ => pure (some (.node .absent 0 [], place))
          | none => pure none
      | .notAhead inner => do
          match ← item reader fuel explain inner place with
          | some _ => pure none
          | none => pure (some (.node .absent 0 [], place))
      | .cut => pure (some (.node .absent 0 [], place))

def more (reader : Reader) : Nat → Bool → Item → Nat → Parsing (List Tree × Nat)
  | 0, _, _, place => pure ([], place)
  | fuel + 1, explain, inner, place => do
      match ← item reader fuel explain inner place with
      | none => pure ([], place)
      | some (first, after) =>
          let (others, after) ← more reader fuel explain inner after
          pure (first :: others, after)

def moreSeparated (reader : Reader) : Nat → Bool → Item → Item → Nat → Parsing (List Tree × Nat)
  | 0, _, _, _, place => pure ([], place)
  | fuel + 1, explain, separator, inner, place => do
      match ← item reader fuel explain separator place with
      | none => pure ([], place)
      | some (_, middle) =>
          match ← item reader fuel explain inner middle with
          | none => pure ([], place)
          | some (first, after) =>
              let (others, after) ← moreSeparated reader fuel explain separator inner after
              pure (first :: others, after)

def row (reader : Reader) : Nat → Bool → List Item → Nat → Bool → Parsing Row
  | 0, _, _, _, final => pure ⟨none, final⟩
  | _ + 1, _, [], place, final => pure ⟨some ([], [], place), final⟩
  | fuel + 1, explain, first :: rest, place, final => do
      let final := final || (match first with | .cut => true | _ => false)
      match ← item reader fuel explain first place with
      | none => pure ⟨none, final⟩
      | some (tree, after) =>
          let others ← row reader fuel explain rest after final
          let found := others.found.map fun (kept, all, stop) =>
            match first with
            | .kept _ => (tree :: kept, tree :: all, stop)
            | .ahead _ | .notAhead _ | .cut => (kept, all, stop)
            | _ => (kept, tree :: all, stop)
          pure ⟨found, others.final⟩

def choice (reader : Reader) : Nat → Bool → List Alternative → Nat → Parsing Match
  | 0, _, _, _ => pure none
  | _ + 1, _, [], _ => pure none
  | fuel + 1, explain, (explains, items, action) :: rest, place => do
      if explains && !explain then choice reader fuel explain rest place
      else
        let result ← row reader fuel explain items place false
        match result.found with
        | some (kept, all, stop) =>
            match ← reader.act action place stop kept all with
            | some tree => pure (some (tree, stop))
            -- An alternative whose action does not apply ends the search.
            | none => pure none
        | none => if result.final then pure none else choice reader fuel explain rest place

def continued (reader : Reader) : Nat → Bool → List Alternative → Nat → Tree × Nat → Parsing (Tree × Nat)
  | 0, _, _, _, found => pure found
  | fuel + 1, explain, alternatives, start, (tree, place) => do
      match ← continuation reader fuel explain alternatives start (tree, place) with
      | none => pure (tree, place)
      | some found => continued reader fuel explain alternatives start found

def continuation (reader : Reader) : Nat → Bool → List Alternative → Nat → Tree × Nat → Parsing Match
  | 0, _, _, _, _ => pure none
  | _ + 1, _, [], _, _ => pure none
  | fuel + 1, explain, (_, items, action) :: rest, start, (tree, place) => do
      let result ← row reader fuel explain items place false
      match result.found with
      | some (kept, all, stop) =>
          match ← reader.act action start stop (tree :: kept) all with
          | some tree => pure (some (tree, stop))
          | none => pure none
      | none => continuation reader fuel explain rest start (tree, place)

def rule (reader : Reader) : Nat → Bool → Nat → Nat → Parsing Match
  | 0, _, _, _ => pure none
  | fuel + 1, explain, index, place => do
      match reader.grammar[index]? with
      | none => pure none
      | some rule =>
          let key := (index, place, explain && !rule.memo)
          match (← get).results[key]? with
          | some result => pure result
          | none =>
              let explain := explain && !rule.plain
              let result ← (do
                match ← choice reader fuel explain rule.alternatives place with
                | none => pure none
                | some found =>
                    let found ← continued reader fuel explain rule.continuations place found
                    pure (some found) : Parsing Match)
              modify fun progress => { progress with results := progress.results.insert key result }
              pure result

end

-- The fault that takes the place of one found earlier: the tokens after it cannot be told apart, or a
-- bracket before it is open up to the end.
def override (scan : Scan) (reached : Nat) (line : Nat) (fault : Fault) : Fault :=
  let open? := match scan.brackets with
    | (bracket, opened) :: _ => if opened < line then some (openBracket bracket opened) else none
    | [] => none
  if scan.tokens.size < reached then fault
  else
    match scan.stop with
    | .finished => fault
    | .ended _ => open?.getD fault
    | .wrong stopLine error =>
        if error.overrides then ⟨stopLine, error.message⟩ else open?.getD fault

def run (reader : Reader) (index : Nat) : Except Fault Tree :=
  -- Every token is passed by fewer than a thousand nested items, which bounds the depth of the reading.
  let fuel := 1000 * (reader.scan.tokens.size + 2)
  let settle (reached : Nat) (fault : Fault) : Fault :=
    override reader.scan reached (reader.lastLine reached) fault
  let attempt (explain : Bool) (progress : Progress) : Except Fault (Match × Progress) :=
    match (rule reader fuel explain index 0).run progress with
    | .ok result => .ok result
    | .error (.scan fault) => .error fault
    | .error (.parse reached fault) => .error (settle reached fault)
  match attempt false {} with
  | .error fault => .error fault
  | .ok (some (tree, _), _) => .ok tree
  | .ok (none, progress) =>
      let last := reader.scan.tokens[progress.reached - 1]?
      match attempt true { progress with results := {} } with
      | .error fault => .error fault
      | .ok (_, progress) =>
          match last.map Token.kind with
          | some .indent => .error ⟨reader.lastLine progress.reached, "unexpected indent"⟩
          | some .dedent => .error ⟨reader.lastLine progress.reached, "unexpected unindent"⟩
          | _ => .error (settle progress.reached ⟨(last.map (·.line)).getD 0, "invalid syntax"⟩)

end Reader

end MarkupLint.Script
