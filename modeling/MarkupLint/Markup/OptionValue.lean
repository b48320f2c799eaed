import MarkupLint.Encoding
import MarkupLint.Markup.Name
import MarkupLint.Text.Digit

set_option autoImplicit false

namespace MarkupLint.Markup

inductive OptionKind where
  | flag
  | text
  | requiredText
  | path
  | address
  | classes
  | integer
  | count
  | optionalCount
  | percentage
  | length
  | lengthOrPercentage
  | figureWidth
  | encoding
  | choice (values : List String)
  | widths (words : List String)
  | character
  | characterOrBlank
  | language
deriving DecidableEq, Repr

inductive OptionFault where
  | unfit
  | noValue (question : String)
deriving DecidableEq, Repr

namespace OptionValue

def integer? (text : String) : Option Int := (Text.readInteger text).toOption

def count? (text : String) : Option Nat :=
  (integer? text).bind fun number => if 0 ≤ number then some number.toNat else none

def classes? (text : String) : Option (List String) :=
  let names := (words text.toList).map fun word => identifierOf (String.ofList word)
  if names.any (·.isEmpty) then none else some names

def units : List String := ["em", "ex", "px", "in", "cm", "mm", "pt", "pc"]

def isMeasure (units : List String) (text : String) : Bool :=
  let digits := text.toList.takeWhile fun c => Text.isAsciiDigit c || c = '.'
  let unit := (text.toList.drop digits.length).dropWhile (· = ' ')
  units.contains (String.ofList unit) && digits.any Text.isAsciiDigit && digits.count '.' ≤ 1

def digitLikeSet : Text.CharSet := Text.CharSet.ofSteps
    [ "178 2 5 1 4783 9 1640 1 1685 1 3 6 6 10 982 9 11 9 11 9 89 1 10 9 1 1 630 9 1 9 1 9 58029 4 1052",
      "9 489 9 57509 11" ]

def charOfCode? (code : Nat) : Option (List Char) :=
  if code < 0x110000 then some [Char.ofNat code] else none

def codeDigits? (text : List Char) : Option (List Char) :=
  let lower := text.map Char.toLower
  let starts := ["0x", "x", "\\x", "u+", "u", "\\u"]
  let plain := starts.findSome? fun start =>
    (Text.dropStart? start.toList lower).filter fun digits =>
      !digits.isEmpty && digits.all Text.isHexDigit
  plain.orElse fun _ =>
    (Text.dropStart? "&#x".toList lower).bind fun rest =>
      let digits := rest.takeWhile Text.isHexDigit
      if !digits.isEmpty && rest.drop digits.length = [';'] then some digits else none

def codeText? (text : String) : Option (List Char) :=
  let chars := text.toList
  if !chars.isEmpty && chars.all fun c => Text.isDigit c || digitLikeSet.contains c then
    if chars.all Text.isDigit then charOfCode? (Text.digitsValue chars) else none
  else
    match codeDigits? chars with
    | some digits => charOfCode? (Text.hexValue digits)
    | none => some chars

def character? (text : String) : Option (List Char) :=
  (codeText? text).filter fun chars => chars.length ≤ 1

def characterOrBlank? (text : String) : Option (List Char) :=
  if text = "tab" then some ['\t'] else if text = "space" then some [' '] else character? text

def numbers? (text : String) : Option (List Nat) :=
  let entries := if text.toList.contains ',' then Text.splitOnChar ',' text.toList
    else words text.toList
  entries.mapM fun entry =>
    (integer? (String.ofList entry)).bind fun number =>
      if 1 ≤ number then some number.toNat else none

def languages : List String := ["rst", "restructuredtext", "rest", "restx", "rtxt", "null"]

def check (kind : OptionKind) (value : Option String) : Except OptionFault Unit :=
  let fits (good : Bool) : Except OptionFault Unit := if good then .ok () else .error .unfit
  let given (test : String → Bool) : Except OptionFault Unit := fits ((value.map test).getD false)
  match kind with
  | .flag => fits ((value.map fun text => Text.allBlank text.toList).getD true)
  | .text => .ok ()
  | .requiredText | .path | .address => fits value.isSome
  | .classes => given fun text => (classes? text).isSome
  | .integer => given fun text => (integer? text).isSome
  | .count => given fun text => (count? text).isSome
  | .optionalCount => fits ((value.map fun text => (count? text).isSome).getD true)
  | .percentage => given fun text =>
      (count? (String.ofList (text.toList.reverse.dropWhile fun c => c = ' ' || c = '%').reverse)).isSome
  | .length => given (isMeasure (units ++ [""]))
  | .lengthOrPercentage => given (isMeasure (units ++ ["%", ""]))
  | .figureWidth =>
      match value with
      | none => .error (.noValue "lower")
      | some text => fits (Text.toLower text = "image" || isMeasure (units ++ ["%", ""]) text)
  | .encoding => given Encoding.isKnown
  | .choice values => given fun text => values.contains (Text.strip (Text.toLower text))
  | .widths words => given fun text => words.contains text || (numbers? text).isSome
  | .character =>
      match value with
      | none => .error (.noValue "isdigit")
      | some text => fits (character? text).isSome
  | .characterOrBlank =>
      match value with
      | none => .error (.noValue "isdigit")
      | some text => fits (characterOrBlank? text).isSome
  | .language => fits ((value.map fun text => languages.contains (Text.toLower text)).getD true)

end OptionValue

end MarkupLint.Markup
