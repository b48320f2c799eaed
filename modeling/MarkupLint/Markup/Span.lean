import MarkupLint.Markup.Message
import MarkupLint.Text.Digit
import MarkupLint.Text.Letter
import MarkupLint.Text.Punctuation
import MarkupLint.Text.Search

set_option autoImplicit false

namespace MarkupLint.Markup

-- Null characters in place of the backslashes that escape something.
def markEscapes : List Char → List Char
  | [] => []
  | '\\' :: c :: rest => escapeMark :: c :: markEscapes rest
  | '\\' :: [] => [escapeMark]
  | c :: rest => c :: markEscapes rest

def restoreEscapes (text : List Char) : List Char :=
  text.map fun c => if c = escapeMark then '\\' else c

def startsAfter : Option Char → Bool
  | none => true
  | some c => Text.isBlank c || Text.isOpener c || Text.isDelimiter c

def endsBefore : Option Char → Bool
  | none => true
  | some c => Text.isBlank c || c = escapeMark || Text.isClosingDelimiter c || Text.isDelimiter c
      || Text.isCloser c

def isNameChar (c : Char) : Bool := Text.isAlphanumeric c

def isNameSeparator (c : Char) : Bool := c = '-' || c = '.' || c = '_' || c = '+' || c = ':'

def simpleName : List Char → List Char
  | [] => []
  | [c] => if isNameChar c then [c] else []
  | c :: d :: rest =>
      if isNameChar c then c :: simpleName (d :: rest)
      else if isNameSeparator c && isNameChar d then c :: simpleName (d :: rest)
      else []

def simpleNameOf (text : List Char) : List Char :=
  match text with
  | c :: _ => if isNameChar c then simpleName text else []
  | [] => []

inductive Delimited where
  | strong
  | emphasis
  | literal
  | target
  | substitution
deriving DecidableEq, Repr

namespace Delimited

def opening : Delimited → List Char
  | .strong => ['*', '*']
  | .emphasis => ['*']
  | .literal => ['\x60', '\x60']
  | .target => ['_', '\x60']
  | .substitution => ['|']

def closing : Delimited → List Char
  | .strong => ['*', '*']
  | .emphasis => ['*']
  | .literal => ['\x60', '\x60']
  | .target => ['\x60']
  | .substitution => ['|']

def label : Delimited → String
  | .strong => "strong"
  | .emphasis => "emphasis"
  | .literal => "literal"
  | .target => "target"
  | .substitution => "substitution_reference"

end Delimited

inductive Start where
  | delimited (kind : Delimited)
  | reference (name : List Char) (anonymous : Bool)
  | footnote (label : List Char) (citation : Bool)
  | interpreted (role : List Char)
deriving Repr

structure Found where
  before : List Char
  start : Start
  marker : List Char
  rest : List Char
deriving Repr

def delimitedStart? (text : List Char) : Option (Delimited × List Char) :=
  let attempt (kind : Delimited) (notBefore : Option Char) : Option (Delimited × List Char) :=
    match Text.dropStart? kind.opening text with
    | some rest =>
        if (rest.head?.map Text.isBlank).getD false || (notBefore.isSome && rest.head? = notBefore) then
          none
        else some (kind, rest)
    | none => none
  (attempt .strong none).orElse fun _ =>
    (attempt .emphasis (some '*')).orElse fun _ =>
      (attempt .literal none).orElse fun _ =>
        (attempt .target none).orElse fun _ => attempt .substitution (some '|')

def referenceStart? (text : List Char) : Option (Start × List Char × List Char) :=
  let name := simpleNameOf text
  if name.isEmpty then none
  else
    match text.drop name.length with
    | '_' :: '_' :: rest =>
        if endsBefore rest.head? then some (.reference name true, name ++ ['_', '_'], rest) else none
    | '_' :: rest =>
        if endsBefore rest.head? then some (.reference name false, name ++ ['_'], rest) else none
    | _ => none

def footnoteLabel? (text : List Char) : Option (List Char × Bool × List Char) :=
  let number := text.takeWhile Text.isAsciiDigit
  let closed (label : List Char) (citation : Bool) : Option (List Char × Bool × List Char) :=
    match text.drop label.length with
    | ']' :: '_' :: rest => if endsBefore rest.head? then some (label, citation, rest) else none
    | _ => none
  let auto : List Char := match text with
    | '#' :: rest => '#' :: simpleNameOf rest
    | '*' :: _ => ['*']
    | _ => []
  (if number.isEmpty then none else closed number false).orElse fun _ =>
    (if auto.isEmpty then none else closed auto false).orElse fun _ =>
      let name := simpleNameOf text
      if name.isEmpty then none else closed name true

def footnoteStart? (text : List Char) : Option (Start × List Char × List Char) :=
  match text with
  | '[' :: inner =>
      (footnoteLabel? inner).map fun (label, citation, rest) =>
        (.footnote label citation, '[' :: label ++ [']', '_'], rest)
  | _ => none

def interpretedStart? (text : List Char) : Option (Start × List Char × List Char) :=
  let opened (role marker rest : List Char) : Option (Start × List Char × List Char) :=
    match rest with
    | '\x60' :: after =>
        if after.head? = some '\x60' || (after.head?.map Text.isBlank).getD false then none
        else some (.interpreted role, marker ++ ['\x60'], after)
    | _ => none
  match text with
  | ':' :: inner =>
      let name := simpleNameOf inner
      if name.isEmpty then none
      else
        match inner.drop name.length with
        | ':' :: rest => opened name (':' :: name ++ [':']) rest
        | _ => none
  | _ => opened [] [] text

def startHere? (text : List Char) : Option (Start × List Char × List Char) :=
  match delimitedStart? text with
  | some (kind, rest) => some (.delimited kind, kind.opening, rest)
  | none => (referenceStart? text).orElse fun _ => (footnoteStart? text).orElse fun _ =>
      interpretedStart? text

def findStart? : List Char → List Char → Option Found
  | _, [] => none
  | passed, c :: rest =>
      match if startsAfter passed.head? then startHere? (c :: rest) else none with
      | some (start, marker, after) => some ⟨passed.reverse, start, marker, after⟩
      | none => findStart? (c :: passed) rest

-- A start between an opening mark and the closing mark that belongs to it is plain text, and so is one at
-- the end of the text.
def Found.isQuoted (found : Found) : Bool :=
  match found.before.getLast?, found.rest.head? with
  | none, _ => false
  | some _, none => true
  | some opener, some closer => Text.closes opener closer

structure Ending where
  content : List Char
  marker : List Char
  rest : List Char
deriving Repr

def delimitedGuard (kind : Delimited) : List Char → Bool
  | [] => true
  | c :: _ => !Text.isBlank c && (kind = .literal || c ≠ escapeMark)

def underscored (closing text : List Char) : List (List Char × List Char) :=
  match Text.dropStart? closing text with
  | none => []
  | some rest =>
      let count := (rest.takeWhile (· = '_')).length
      (List.range (min count 2 + 1)).reverse.map fun n =>
        (closing ++ List.replicate n '_', rest.drop n)

def endHere? (kind : Delimited) (text : List Char) : Option (List Char × List Char) :=
  let candidates :=
    if kind = .substitution then underscored kind.closing text
    else match Text.dropStart? kind.closing text with
      | some rest => [(kind.closing, rest)]
      | none => []
  candidates.find? fun (_, rest) => endsBefore rest.head?

def findEnd? (kind : Delimited) : List Char → List Char → Option Ending
  | _, [] => none
  | passed, c :: rest =>
      match if delimitedGuard kind passed then endHere? kind (c :: rest) else none with
      | some (marker, after) => some ⟨passed.reverse, marker, after⟩
      | none => findEnd? kind (c :: passed) rest

structure InterpretedEnding where
  content : List Char
  marker : List Char
  role : List Char
  underscores : Nat
  rest : List Char
deriving Repr

def interpretedGuard : List Char → Bool
  | [] => true
  | [c] => !(Text.isBlank c || c = escapeMark)
  | c :: d :: _ => d = escapeMark || !(Text.isBlank c || c = escapeMark)

def trailingRole? : List Char → Option (List Char × List Char)
  | ':' :: inner =>
      let name := simpleNameOf inner
      match inner.drop name.length with
      | ':' :: rest => if name.isEmpty then none else some (name, rest)
      | _ => none
  | _ => none

def interpretedEndHere? (text : List Char) : Option (List Char × List Char × Nat × List Char) :=
  match text with
  | '\x60' :: rest =>
      let plain : List (List Char × List Char × Nat × List Char) :=
        (underscored [] rest).map fun (marks, after) => ('\x60' :: marks, [], marks.length, after)
      let withRole : List (List Char × List Char × Nat × List Char) :=
        match trailingRole? rest with
        | some (role, afterRole) =>
            (underscored [] afterRole).map fun (marks, after) =>
              ('\x60' :: ':' :: role ++ ':' :: marks, role, marks.length, after)
        | none => []
      (withRole ++ plain).find? fun (_, _, _, after) => endsBefore after.head?
  | _ => none

def findInterpretedEnd? : List Char → List Char → Option InterpretedEnding
  | _, [] => none
  | passed, c :: rest =>
      match if interpretedGuard passed then interpretedEndHere? (c :: rest) else none with
      | some (marker, role, underscores, after) =>
          some ⟨passed.reverse, marker, role, underscores, after⟩
      | none => findInterpretedEnd? (c :: passed) rest

end MarkupLint.Markup
