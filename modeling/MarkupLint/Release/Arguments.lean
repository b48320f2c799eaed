import MarkupLint.Text.Digit
import MarkupLint.Text.Search

set_option autoImplicit false

namespace MarkupLint.Release

inductive Switch where
  | help
  | firstRelease
deriving DecidableEq, Repr

namespace Switch

def shortNames : List (String × Switch) := [("-h", .help)]

def longNames : List (String × Switch) := [("--help", .help), ("--first-release", .firstRelease)]

def ofName? (name : String) : Option Switch := (shortNames ++ longNames).lookup name

end Switch

structure Arguments where
  kind : String := "patch"
  isFirst : Bool := false
deriving DecidableEq, Repr

inductive EarlyEnd where
  | help
  | misuse
deriving DecidableEq, Repr

def EarlyEnd.status : EarlyEnd → Nat
  | .help => 0
  | .misuse => 2

inductive Argument where
  | plain (text : String)
  | switch (name : Switch) (isShort : Bool) (value : Option String)
  | unknown
  | divider
deriving DecidableEq, Repr

namespace Argument

def isNegativeNumber (text : List Char) : Bool :=
  match text with
  | '-' :: rest =>
      let whole := rest.takeWhile Text.isDigit
      match rest.dropWhile Text.isDigit with
      | [] | ['\n'] => !whole.isEmpty
      | '.' :: fraction =>
          let places := fraction.takeWhile Text.isDigit
          let after := fraction.dropWhile Text.isDigit
          !places.isEmpty && (after = [] || after = ['\n'])
      | _ => false
  | _ => false

def splitValue (text : List Char) : String × Option String :=
  match Text.cut? ['='] text with
  | some (name, value) => (String.ofList name, some (String.ofList value))
  | none => (String.ofList text, none)

def candidates (text : List Char) : List Argument :=
  match text with
  | '-' :: '-' :: _ =>
      let (start, value) := splitValue text
      (Switch.longNames.filter fun (name, _) => Text.startsWith start.toList name.toList).map
        fun (_, found) => .switch found false value
  | _ =>
      (Switch.shortNames.filter fun (name, _) => name.toList = text.take 2).map
        fun (_, found) => .switch found true (some (String.ofList (text.drop 2)))

def readSwitch (text : List Char) : Except EarlyEnd Argument :=
  let (name, value) := splitValue text
  match Switch.ofName? (String.ofList text), Switch.ofName? name, candidates text with
  | some found, _, _ => .ok (.switch found (!Text.startsWith ['-', '-'] text) none)
  | none, some found, _ => .ok (.switch found (!Text.startsWith ['-', '-'] text) value)
  | none, none, [only] => .ok only
  | none, none, _ :: _ :: _ => .error .misuse
  | none, none, [] =>
      .ok (if isNegativeNumber text || text.contains ' ' then .plain (String.ofList text) else .unknown)

def read (text : String) : Except EarlyEnd Argument :=
  match text.toList with
  | '-' :: c :: rest => readSwitch ('-' :: c :: rest)
  | _ => .ok (.plain text)

def readAll : List String → Except EarlyEnd (List Argument)
  | [] => .ok []
  | text :: rest =>
      if text = "--" then .ok (.divider :: rest.map .plain)
      else do return (← read text) :: (← readAll rest)

end Argument

namespace Arguments

structure State where
  isFirst : Bool := false
  kind : Option String := none
  isBehindKind : Bool := false
  hasExtra : Bool := false
deriving DecidableEq, Repr

-- The switch that a value joined to a short switch comes to: each sign stands for one more.
def joined (switch : Switch) : List Char → Except EarlyEnd Switch
  | [] => .ok switch
  | c :: rest =>
      match Switch.ofName? (String.ofList ['-', c]) with
      | some next => joined next rest
      | none => .error .misuse

def meant (switch : Switch) (isShort : Bool) : Option String → Except EarlyEnd Switch
  | none => .ok switch
  | some "" => .error .misuse
  | some value => if isShort then joined switch value.toList else .error .misuse

def step (state : State) : Argument → Except EarlyEnd State
  | .plain text =>
      .ok (if state.kind.isNone then { state with kind := some text, isBehindKind := true }
        else { state with isBehindKind := false, hasExtra := true })
  | .divider =>
      .ok (if state.kind.isNone || state.isBehindKind then { state with isBehindKind := false }
        else { state with hasExtra := true })
  | .unknown => .ok { state with isBehindKind := false, hasExtra := true }
  | .switch switch isShort value => do
      match ← meant switch isShort value with
      | .help => .error .help
      | .firstRelease => return { state with isFirst := true, isBehindKind := false }

def read (texts : List String) : Except EarlyEnd Arguments := do
  let state ← (← Argument.readAll texts).foldlM step {}
  if state.hasExtra then .error .misuse
  else return { kind := state.kind.getD "patch", isFirst := state.isFirst }

end Arguments

end MarkupLint.Release
