import MarkupLint.Format.YamlNode
import MarkupLint.Pattern.Reader
import MarkupLint.Text.Case

set_option autoImplicit false

namespace MarkupLint.Yaml

-- The patterns of the tags that a plain scalar can have by its text, with the characters it can begin with;
-- the first pattern that fits decides.
def implicitTags : List (Tag × String × String) :=
  [(.bool, "yYnNtTfFoO",
      "^(yes|Yes|YES|no|No|NO|true|True|TRUE|false|False|FALSE|on|On|ON|off|Off|OFF)$"),
    (.float, "-+0123456789.",
      "^([-+]?([0-9][0-9_]*)\\.[0-9_]*([eE][-+][0-9]+)?|\\.[0-9][0-9_]*([eE][-+][0-9]+)?|[-+]?[0-9][0-9_]*(:[0-5]?[0-9])+\\.[0-9_]*|[-+]?\\.(inf|Inf|INF)|\\.(nan|NaN|NAN))$"),
    (.int, "-+0123456789",
      "^([-+]?0b[0-1_]+|[-+]?0[0-7_]+|[-+]?(0|[1-9][0-9_]*)|[-+]?0x[0-9a-fA-F_]+|[-+]?[1-9][0-9_]*(:[0-5]?[0-9])+)$"),
    (.merge, "<", "^(<<)$"),
    (.null, "~nN", "^(~|null|Null|NULL)$"),
    (.timestamp, "0123456789",
      "^([0-9][0-9][0-9][0-9]-[0-9][0-9]-[0-9][0-9]|[0-9][0-9][0-9][0-9]-[0-9][0-9]?-[0-9][0-9]?([Tt]|[ \\t]+)[0-9][0-9]?:[0-9][0-9]:[0-9][0-9](\\.[0-9]*)?([ \\t]*(Z|[-+][0-9][0-9]?(:[0-9][0-9])?))?)$"),
    (.value, "=", "^(=)$")]

def fits (pattern : String) (text : String) : Bool :=
  match Pattern.ofText? pattern with
  | some pattern => pattern.foundIn text
  | none => false

def resolve (text : String) : Tag :=
  match text.toList.head? with
  | none => .null
  | some first =>
      ((implicitTags.find? fun (_, starts, pattern) =>
        starts.toList.contains first && fits pattern text).map (·.1)).getD .text

def isNumeral (base : Nat) (text : List Char) : Bool :=
  let (_, unsigned) := Text.splitSign (Text.trim text)
  let digit := fun c : Char => Text.isHexDigit c && Text.hexDigitValue c < base
  (Text.splitOnChar '_' unsigned).all fun group => !group.isEmpty && group.all digit

def numeralFailure (base : Nat) (text : List Char) : Failure :=
  .value ("invalid literal for int() with base " ++ toString base ++ ": " ++ Text.quote (String.ofList text))

-- Whether a whole number can be read from the text of a node: decimal, or in another base by what it begins
-- with, or of parts in base sixty.
def readInt (text : String) : Except Failure Unit := do
  let value := text.toList.filter (· ≠ '_')
  let inBase (base : Nat) (digits : List Char) : Except Failure Unit :=
    if isNumeral base digits then .ok () else .error (numeralFailure base digits)
  let decimal (digits : List Char) : Except Failure Unit :=
    match Text.readInteger (String.ofList digits) with
    | .ok _ => .ok ()
    | .error cause => .error (.number cause)
  if value.isEmpty then throw .noCharacter
  let unsigned := (Text.splitSign value).2
  if unsigned = ['0'] then return
  match unsigned with
  | '0' :: 'b' :: digits => inBase 2 digits
  | '0' :: 'x' :: digits => inBase 16 digits
  | '0' :: _ => inBase 8 unsigned
  | [] => throw .noCharacter
  | _ =>
      if unsigned.contains ':' then (Text.splitOnChar ':' unsigned).forM decimal
      else decimal unsigned

def isFraction (text : List Char) : Bool :=
  let trimmed := String.ofList (Text.trim text)
  fits "^[-+]?([0-9]+\\.?[0-9]*|\\.[0-9]+)([eE][-+]?[0-9]+)?$" trimmed
    || fits "^[-+]?(inf|infinity|nan)$" trimmed

def readFloat (text : String) : Except Failure Unit := do
  let value := (Text.toLower text).toList.filter (· ≠ '_')
  let part (digits : List Char) : Except Failure Unit :=
    if isFraction digits then .ok ()
    else .error (.value ("could not convert string to float: " ++ Text.quote (String.ofList digits)))
  if value.isEmpty then throw .noCharacter
  let unsigned := (Text.splitSign value).2
  if unsigned = ".inf".toList || unsigned = ".nan".toList then return
  else if unsigned.contains ':' then (Text.splitOnChar ':' unsigned).forM part
  else part unsigned

def boolWords : List String := ["yes", "no", "true", "false", "on", "off"]

def readBool (text : String) : Except Failure Unit :=
  let word := Text.toLower text
  if boolWords.contains word then .ok () else .error (.unknownWord word)

def daysIn (year month : Nat) : Nat :=
  if month = 2 then
    if year % 4 = 0 && (year % 100 ≠ 0 || year % 400 = 0) then 29 else 28
  else if [4, 6, 9, 11].contains month then 30
  else 31

def numbersIn (text : List Char) : List Nat :=
  ((text.splitBy fun a b => Text.isAsciiDigit a == Text.isAsciiDigit b).filter
    fun run => run.all Text.isAsciiDigit).map Text.digitsValue

def timestampPattern : String :=
  "^[0-9][0-9][0-9][0-9]-[0-9][0-9]?-[0-9][0-9]?(([Tt]|[ \\t]+)[0-9][0-9]?:[0-9][0-9]:[0-9][0-9](\\.[0-9]*)?([ \\t]*(Z|[-+][0-9][0-9]?(:[0-9][0-9])?))?)?$"

def readTimestamp (text : String) : Except Failure Unit := do
  if !fits timestampPattern text then throw .notTimestamp
  match numbersIn text.toList with
  | year :: month :: day :: clock =>
      if year = 0 then throw (.value "year 0 is out of range")
      if month < 1 || 12 < month then throw (.value "month must be in 1..12")
      if day < 1 || daysIn year month < day then throw (.value "day is out of range for month")
      match clock with
      | hour :: minute :: second :: _ =>
          if 23 < hour then throw (.value "hour must be in 0..23")
          if 59 < minute then throw (.value "minute must be in 0..59")
          if 59 < second then throw (.value "second must be in 0..59")
      | _ => return
  | _ => return

namespace Node

def title : Node → String
  | .scalar _ _ _ _ => "scalar"
  | .sequence _ _ _ _ => "sequence"
  | .mapping _ _ _ _ => "mapping"
  | .reference _ => ""

def tag : Node → Tag
  | .scalar _ tag _ _ | .sequence _ tag _ _ | .mapping _ tag _ _ => tag
  | .reference _ => .null

def number : Node → Nat
  | .scalar number _ _ _ | .sequence number _ _ _ | .mapping number _ _ _ | .reference number => number

end Node

def allNodes : Nat → Node → List Node
  | 0, node => [node]
  | fuel + 1, node =>
      node :: match node with
        | .sequence _ _ items _ => items.flatMap (allNodes fuel)
        | .mapping _ _ items _ =>
            items.flatMap fun (key, value) => allNodes fuel key ++ allNodes fuel value
        | _ => []

structure Making where
  nodes : List Node
  begun : List Nat := []
  waiting : List Node := []

abbrev Valuing := StateT Making (Except Fault)

namespace Valuing

def fault {α : Type} (cause : Cause) (mark : Mark) : Valuing α := throw (.marked none none cause mark)

def within {α : Type} (activity : Activity) (start : Mark) (cause : Cause) (mark : Mark) : Valuing α :=
  throw (.marked activity start cause mark)

def target (node : Node) : Valuing Node := do
  match node with
  | .reference number =>
      return ((← get).nodes.find? fun
        | .reference _ => false
        | other => other.number = number).getD node
  | _ => return node

def scalarText : Nat → Node → Valuing String
  | _, .scalar _ _ text _ => return text
  | fuel + 1, .mapping number tag items mark => do
      let tagged ← items.filterM fun (key, _) => do return (← target key).tag = .value
      match tagged with
      | (_, value) :: _ => scalarText fuel (← target value)
      | [] => fault (.expectedNode "scalar" (Node.mapping number tag items mark).title) mark
  | _, node => fault (.expectedNode "scalar" node.title) node.mark

def lift (result : Except Failure Unit) : Valuing Unit :=
  match result with
  | .ok () => return
  | .error cause => throw (.failed cause)

def maxNesting : Nat := 1000

def readBinary (node : Node) (text : String) : Valuing Unit := do
  let letters := text.toList
  match letters.findIdx? (·.toNat ≥ 128) with
  | some index =>
      let last := index + ((letters.drop index).takeWhile (·.toNat ≥ 128)).length - 1
      let place :=
        if last = index then
          "character " ++ Text.quote ((letters.getD index ' ').toString) ++ " in position " ++ toString index
        else "characters in position " ++ toString index ++ "-" ++ toString last
      fault (.base64NotAscii
        ("'ascii' codec can't encode " ++ place ++ ": ordinal not in range(128)")) node.mark
  | none =>
      let data := letters.filter fun c => Text.isAsciiLetter c || Text.isAsciiDigit c || c = '+' || c = '/'
      let padding := (letters.filter (· = '=')).length
      if data.length % 4 = 1 then
        fault (.base64 ("Invalid base64-encoded string: number of data characters ("
          ++ toString data.length ++ ") cannot be 1 more than a multiple of 4")) node.mark
      else if data.length % 4 ≠ 0 && data.length % 4 + padding < 4 then
        fault (.base64 "Incorrect padding") node.mark

-- Begins the value of a node: scalars at once, collections later. Tells whether the value can be a key.
def start (node : Node) : Valuing Bool := do
  let node ← target node
  let making ← get
  let later : Valuing Bool := do
    if !making.begun.contains node.number then
      set { making with
        begun := node.number :: making.begun, waiting := making.waiting ++ [node] }
    return false
  let text := scalarText maxNesting node
  match node.tag with
  | .null => discard text; return true
  | .text => discard text; return true
  | .bool => lift (readBool (← text)); return true
  | .int => lift (readInt (← text)); return true
  | .float => lift (readFloat (← text)); return true
  | .timestamp => lift (readTimestamp (← text)); return true
  | .binary => readBinary node (← text); return true
  | .orderedMap | .pairs | .set | .sequence | .mapping => later
  | tag => fault (.unknownTag tag.name) node.mark

-- The pairs of a mapping with those of the mappings merged into it in front, by fuel for nested merges.
def flatten : Nat → Node → Valuing (List (Node × Node))
  | fuel + 1, .mapping _ _ items mark => do
      let split ← items.mapM fun (key, value) => do
        return (decide ((← target key).tag = .merge), key, ← target value)
      let own := (split.filter (!·.1)).map (·.2)
      let merged ← (split.filter (·.1)).mapM fun (_, _, value) => do
        match value with
        | .mapping _ _ _ _ => flatten fuel value
        | .sequence _ _ parts _ =>
            let parts ← parts.mapM target
            let pairs ← parts.mapM fun part =>
              match part with
              | .mapping _ _ _ _ => flatten fuel part
              | _ => within .mapping mark (.mergeItem part.title) part.mark
            return pairs.reverse.flatten
        | _ => within .mapping mark (.mergeValue value.title) value.mark
      return merged.flatten ++ own
  | _, _ => return []

def makePairs (node : Node) : Valuing Unit := do
  match node with
  | .mapping _ _ items mark =>
      let pairs ← flatten (items.length + (← get).nodes.length + 1) node
      pairs.forM fun (key, value) => do
        let shown ← target key
        let isKey ← if shown.tag = .value then pure true else start key
        if !isKey then within .mapping mark .unhashableKey shown.mark
        discard (start value)
  | _ => fault (.expectedNode "mapping" node.title) node.mark

def makeItems (node : Node) : Valuing Unit := do
  match node with
  | .sequence _ _ items _ => items.forM fun item => discard (start item)
  | _ => fault (.expectedNode "sequence" node.title) node.mark

def makeSinglePairs (activity : Activity) (node : Node) : Valuing Unit := do
  match node with
  | .sequence _ _ items mark =>
      items.forM fun item => do
        match ← target item with
        | .mapping _ _ [(key, value)] _ =>
            discard (start key)
            discard (start value)
        | .mapping _ _ pairs place => within activity mark (.pairCount pairs.length) place
        | other => within activity mark (.pairMapping other.title) other.mark
  | _ => within activity node.mark (.pairSequence node.title) node.mark

def complete (node : Node) : Valuing Unit :=
  match node.tag with
  | .sequence => makeItems node
  | .orderedMap => makeSinglePairs .orderedMap node
  | .pairs => makeSinglePairs .pairs node
  | _ => makePairs node

def completeAll : Nat → Valuing Unit
  | 0 => return
  | fuel + 1 => do
      let waiting := (← get).waiting
      if !waiting.isEmpty then
        modify fun m => { m with waiting := [] }
        waiting.forM complete
        completeAll fuel

end Valuing

def fault? (text : List Char) : Option Fault :=
  let result : Except Fault PUnit := do
    match ← readText resolve text with
    | none => return
    | some node =>
        let nodes := allNodes (text.length + 1) node
        (do discard (Valuing.start node); Valuing.completeAll (nodes.length + 1) : Valuing Unit).run'
          { nodes }
  match result with
  | .ok _ => none
  | .error fault => some fault

end MarkupLint.Yaml
