import MarkupLint.Decimal
import MarkupLint.Script.Quotation
import MarkupLint.Text.Digit
import MarkupLint.Text.Quoted

set_option autoImplicit false

namespace MarkupLint.Script

-- A known value. A number whose digits need not be known has none; texts and bytes are the numbers of their
-- characters.
inductive Constant where
  | none
  | ellipsis
  | bool (value : Bool)
  | int (value : Int)
  | float (value : Option Binary64)
  | complex (real imaginary : Option Binary64)
  | str (codes : List Nat)
  | bytes (codes : List Nat)
  | tuple (items : List Constant)
deriving Repr

namespace Constant

def typeName : Constant → String
  | .none => "NoneType"
  | .ellipsis => "ellipsis"
  | .bool _ => "bool"
  | .int _ => "int"
  | .float _ => "float"
  | .complex .. => "complex"
  | .str _ => "str"
  | .bytes _ => "bytes"
  | .tuple _ => "tuple"

def isUnique : Constant → Bool
  | .none | .ellipsis | .bool _ => true
  | _ => false

def isNought (value : Option Binary64) : Bool := (value.map Binary64.isNought).getD false

def isTrue : Constant → Bool
  | .none => false
  | .ellipsis => true
  | .bool value => value
  | .int value => value ≠ 0
  | .float value => !isNought value
  | .complex real imaginary => !(isNought real && isNought imaginary)
  | .str codes => !codes.isEmpty
  | .bytes codes => !codes.isEmpty
  | .tuple items => !items.isEmpty

def whole? : Constant → Option Int
  | .int value => some value
  | .bool value => some (if value then 1 else 0)
  | _ => Option.none

def ofWhole? (value : Int) : Option Binary64 :=
  match Binary64.ofRatio value 1 with
  | .infinite _ => Option.none
  | number => some number

def fraction? (value : Constant) : Option (Option Binary64) :=
  match value with
  | .float number => some number
  | value => value.whole?.bind fun whole => (ofWhole? whole).map some

def complex? (value : Constant) : Option (Option Binary64 × Option Binary64) :=
  match value with
  | .complex real imaginary => some (real, imaginary)
  | value => value.fraction?.map fun real => (real, some (.finite false 0 Binary64.leastExponent))

def bits (value : Int) : Nat := if value = 0 then 0 else value.natAbs.log2 + 1

def maxBits : Nat := 128

def maxItems : Nat := 256

def maxInnerItems : Nat := 1024

def maxCharacters : Nat := 4096

def combine (f : Int × Nat → Int × Nat → Int × Nat) (left right : Option Binary64) : Option Binary64 :=
  (left.bind Binary64.ratio?).bind fun a => (right.bind Binary64.ratio?).map fun b =>
    let (numerator, denominator) := f a b
    Binary64.ofRatio numerator denominator

def add : Option Binary64 → Option Binary64 → Option Binary64 :=
  combine fun a b => (a.1 * b.2 + b.1 * a.2, a.2 * b.2)

def subtract : Option Binary64 → Option Binary64 → Option Binary64 :=
  combine fun a b => (a.1 * b.2 - b.1 * a.2, a.2 * b.2)

def multiply : Option Binary64 → Option Binary64 → Option Binary64 :=
  combine fun a b => (a.1 * b.1, a.2 * b.2)

def divide : Option Binary64 → Option Binary64 → Option Binary64 :=
  combine fun a b => (a.1 * b.2 * b.1.sign, a.2 * b.1.natAbs)

def countItems : Constant → Nat
  | .tuple items => items.length + countAll items
  | _ => 0
where
  countAll : List Constant → Nat
    | [] => 0
    | item :: rest => countItems item + countAll rest

-- Whether a row of so many items may be repeated so often: not too often, and if there are any, not a
-- negative number of times.
def mayRepeat (limit size : Nat) (count : Int) : Bool :=
  size = 0 || (0 ≤ count && count ≤ ((limit / size : Nat) : Int))

def repeated? (value : Constant) (count : Int) : Option Constant :=
  let copies {α : Type} (items : List α) : List α := (List.replicate count.toNat items).flatten
  match value with
  | .str codes =>
      if mayRepeat maxCharacters codes.length count then some (.str (copies codes)) else Option.none
  | .bytes codes =>
      if mayRepeat maxCharacters codes.length count then some (.bytes (copies codes)) else Option.none
  | .tuple items =>
      if mayRepeat maxItems items.length count
          && (count = 0 || items.isEmpty
            || countItems (.tuple items) ≤ maxInnerItems / count.toNat) then
        some (.tuple (copies items))
      else Option.none
  | _ => Option.none

def sum? (left right : Constant) : Option Constant :=
  match left, right with
  | .str a, .str b => some (.str (a ++ b))
  | .bytes a, .bytes b => some (.bytes (a ++ b))
  | .tuple a, .tuple b => some (.tuple (a ++ b))
  | _, _ => Option.none

def numeric? (left right : Constant) (onWhole : Int → Int → Option Constant)
    (onFraction : Option Binary64 → Option Binary64 → Option Constant)
    (onComplex : Option Binary64 × Option Binary64 → Option Binary64 × Option Binary64 → Option Constant) :
    Option Constant :=
  match left.whole?, right.whole? with
  | some a, some b => onWhole a b
  | _, _ =>
      match left, right with
      | .complex .., _ | _, .complex .. =>
          left.complex?.bind fun a => right.complex?.bind fun b => onComplex a b
      | _, _ => left.fraction?.bind fun a => right.fraction?.bind fun b => onFraction a b

def plus? (left right : Constant) : Option Constant :=
  (sum? left right).orElse fun _ =>
    numeric? left right (fun a b => some (.int (a + b))) (fun a b => some (.float (add a b)))
      (fun a b => some (.complex (add a.1 b.1) (add a.2 b.2)))

def minus? (left right : Constant) : Option Constant :=
  numeric? left right (fun a b => some (.int (a - b))) (fun a b => some (.float (subtract a b)))
    (fun a b => some (.complex (subtract a.1 b.1) (subtract a.2 b.2)))

def times? (left right : Constant) : Option Constant :=
  match left.whole?, right.whole? with
  | some count, Option.none => (repeated? right count).orElse fun _ => product
  | Option.none, some count => (repeated? left count).orElse fun _ => product
  | _, _ => product
where
  product : Option Constant :=
    numeric? left right
      (fun a b => if a ≠ 0 && b ≠ 0 && maxBits < bits a + bits b then Option.none else some (.int (a * b)))
      (fun a b => some (.float (multiply a b)))
      (fun a b => some (.complex (subtract (multiply a.1 b.1) (multiply a.2 b.2))
        (add (multiply a.1 b.2) (multiply a.2 b.1))))

def over? (left right : Constant) : Option Constant :=
  numeric? left right
    (fun a b =>
      if b = 0 then Option.none
      else
        match Binary64.ofRatio (a * b.sign) b.natAbs with
        | .infinite _ => Option.none
        | value => some (.float (some value)))
    (fun a b => if isNought b then Option.none else some (.float (divide a b)))
    (fun _ b => if isNought b.1 && isNought b.2 then Option.none
      else some (.complex Option.none Option.none))

def whole2? (onWhole : Int → Int → Int) (left right : Constant) : Option Constant :=
  numeric? left right
    (fun a b => if b = 0 then Option.none else some (.int (onWhole a b)))
    (fun _ b => if isNought b then Option.none else some (.float Option.none))
    (fun _ _ => Option.none)

def overflows (base exponent : Option Binary64) : Bool :=
  match base.bind Binary64.ratio?, exponent.bind Binary64.ratio? with
  | some (numerator, denominator), some (power, unit) =>
      if numerator = 0 then false
      else
        let n := numerator.natAbs
        let (top, bottom) := if 0 ≤ power then (n, denominator) else (denominator, n)
        let size := power.natAbs / unit
        if top ≤ bottom then false
        else
          -- A number with `k` binary digits before its point has a power with about `k` times the
          -- exponent of them.
          let magnitude := (top / bottom).log2
          if 1024 ≤ magnitude * size then true
          else if (magnitude + 1) * (size + 1) < 1024 || power.natAbs % unit ≠ 0 then false
          else
            match Binary64.ofQuotient false (Nat.pow top size) (Nat.pow bottom size) with
            | .infinite _ => true
            | _ => false
  | _, _ => false

def isWholeNumber (value : Option Binary64) : Bool :=
  match value.bind Binary64.ratio? with
  | some (numerator, denominator) => numerator % denominator = 0
  | Option.none => true

def fractionPower? (base exponent : Option Binary64) : Option Constant :=
  let negative (value : Option Binary64) : Bool := (value.map Binary64.isNegative).getD false
  if isNought base && negative exponent && !isNought exponent then Option.none
  else if negative base && !isNought base && !isWholeNumber exponent then
    some (.complex Option.none Option.none)
  else if overflows base exponent then Option.none
  else some (.float Option.none)

def power? (left right : Constant) : Option Constant :=
  numeric? left right
    (fun a b =>
      if 0 ≤ b then
        if a ≠ 0 && b ≠ 0 && maxBits / b.toNat < bits a then Option.none else some (.int (Int.pow a b.toNat))
      else (ofWhole? a).bind fun base => (ofWhole? b).bind fun exponent =>
        fractionPower? (some base) (some exponent))
    fractionPower?
    (fun a b =>
      if isNought a.1 && isNought a.2 && !(isNought b.1 && isNought b.2) then
        if isNought b.2 && !((b.1.map Binary64.isNegative).getD false) then
          some (.complex Option.none Option.none)
        else Option.none
      else some (.complex Option.none Option.none))

def shiftLeft? (left right : Constant) : Option Constant :=
  left.whole?.bind fun a => right.whole?.bind fun b =>
    if b < 0 then Option.none
    else if a ≠ 0 && b ≠ 0 && maxBits < bits a + b.toNat then Option.none
    else some (.int (a * Int.pow 2 b.toNat))

def shiftRight? (left right : Constant) : Option Constant :=
  left.whole?.bind fun a => right.whole?.bind fun b =>
    if b < 0 then Option.none
    else some (.int (if bits a ≤ b.toNat then (if a < 0 then -1 else 0) else Int.fdiv a (Int.pow 2 b.toNat)))

-- Combines the binary digits of two whole numbers; negative numbers have ones without end.
def bitwise (f : Bool → Bool → Bool) (a b : Int) : Int :=
  let width := max (bits a) (bits b) + 1
  let digit (value : Int) (place : Nat) : Bool := Int.emod (Int.fdiv value (Int.pow 2 place)) 2 = 1
  let low := (List.range width).foldl (fun (total : Int) place =>
    if f (digit a place) (digit b place) then total + Int.pow 2 place else total) 0
  if f (decide (a < 0)) (decide (b < 0)) then low - Int.pow 2 width else low

def bitwise? (f : Bool → Bool → Bool) (left right : Constant) : Option Constant :=
  match left, right with
  | .bool a, .bool b => some (.bool (f a b))
  | _, _ => left.whole?.bind fun a => right.whole?.map fun b => .int (bitwise f a b)

def operate? (operator : String) (left right : Constant) : Option Constant :=
  if operator = "+" then plus? left right
  else if operator = "-" then minus? left right
  else if operator = "*" then times? left right
  else if operator = "/" then over? left right
  else if operator = "//" then whole2? Int.fdiv left right
  else if operator = "%" then whole2? Int.fmod left right
  else if operator = "**" then power? left right
  else if operator = "<<" then shiftLeft? left right
  else if operator = ">>" then shiftRight? left right
  else if operator = "&" then bitwise? (· && ·) left right
  else if operator = "|" then bitwise? (· || ·) left right
  else if operator = "^" then bitwise? (· != ·) left right
  else Option.none

def sign? (operator : String) (value : Constant) : Option Constant :=
  if operator = "~" then value.whole?.map fun n => .int (-n - 1)
  else
    let negate := operator = "-"
    let turn (number : Option Binary64) : Option Binary64 :=
      if negate then number.map Binary64.opposite else number
    match value with
    | .float number => some (.float (turn number))
    | .complex real imaginary => some (.complex (turn real) (turn imaginary))
    | value => value.whole?.map fun n => .int (if negate then -n else n)

def item? (value index : Constant) : Option Constant :=
  index.whole?.bind fun place =>
    let pick {α : Type} (items : List α) : Option α :=
      if 0 ≤ place then items[place.toNat]?
      else if -place ≤ items.length then items[items.length - place.natAbs]? else Option.none
    match value with
    | .str codes => (pick codes).map fun code => .str [code]
    | .bytes codes => (pick codes).map fun code => .int code
    | .tuple items => pick items
    | _ => Option.none

def basedValue (base : Nat) (digits : List Char) : Int :=
  digits.foldl (fun (value : Int) c => if c = '_' then value else value * base + Text.hexDigitValue c) 0

def fractionOf (text : List Char) : Binary64 :=
  let (mantissa, power) := text.span fun c => c ≠ 'e' && c ≠ 'E'
  let (whole, fraction) := mantissa.span (· ≠ '.')
  let fraction := fraction.drop 1
  let exponent : Int := match power.drop 1 with
    | '-' :: digits => -(Text.digitsValue digits : Int)
    | '+' :: digits => Text.digitsValue digits
    | digits => Text.digitsValue digits
  .ofDecimal false ⟨Text.digitsValue (whole ++ fraction), exponent - fraction.length⟩

def ofNumber (text : List Char) : Constant :=
  let text := text.filter (· ≠ '_')
  match text with
  | '0' :: 'x' :: digits | '0' :: 'X' :: digits => .int (basedValue 16 digits)
  | '0' :: 'o' :: digits | '0' :: 'O' :: digits => .int (basedValue 8 digits)
  | '0' :: 'b' :: digits | '0' :: 'B' :: digits => .int (basedValue 2 digits)
  | text =>
      if text.any fun c => c = 'j' || c = 'J' then
        .complex (some (.finite false 0 Binary64.leastExponent))
          (some (fractionOf (text.takeWhile fun c => c ≠ 'j' && c ≠ 'J')))
      else if text.any fun c => c = '.' || c = 'e' || c = 'E' then .float (some (fractionOf text))
      else .int (Text.digitsValue text)

def letterEscapes : List (Char × Nat) :=
  [ ('\\', 92), ('\'', 39), ('"', 34), ('a', 7), ('b', 8), ('f', 12), ('n', 10), ('r', 13), ('t', 9),
    ('v', 11) ]

def unescape (bytes : Bool) : Nat → List Char → List Nat
  | 0, _ | _, [] => []
  | count + 1, '\\' :: c :: rest =>
      let hex (size : Nat) : List Nat := Text.hexValue (rest.take size) :: unescape bytes count (rest.drop size)
      if c = '\n' then unescape bytes count rest
      else if c = 'x' then hex 2
      else if c = 'u' && !bytes then hex 4
      else if c = 'U' && !bytes then hex 8
      else if c = 'N' && !bytes then
        let name := (rest.drop 1).takeWhile (· ≠ '\x7d')
        -- A character given by its name is told from others by that name.
        name.foldl (fun code c => code * 128 + c.toUpper.toNat) 0x110000
          :: unescape bytes count (rest.drop (name.length + 2))
      else if '0' ≤ c && c ≤ '7' then
        let digits := c :: (rest.take 2).takeWhile fun c => '0' ≤ c && c ≤ '7'
        let code := (basedValue 8 digits).toNat
        (if bytes then code % 256 else code) :: unescape bytes count (rest.drop (digits.length - 1))
      else
        match letterEscapes.lookup c with
        | some code => code :: unescape bytes count rest
        | Option.none => 92 :: c.toNat :: unescape bytes count rest
  | count + 1, c :: rest => c.toNat :: unescape bytes count rest

def codesOf (quotation : Quotation) : List Nat :=
  if quotation.isRaw then quotation.body.map Char.toNat
  else unescape quotation.isBytes (quotation.body.length + 1) quotation.body

def ofQuotations (quotations : List Quotation) : Constant :=
  let codes := quotations.flatMap codesOf
  if quotations.any Quotation.isBytes then .bytes codes else .str codes

def checkedName : String := "__debug__"

def ofToken? (token : Token) : Option Constant :=
  match token.kind with
  | .number => some (ofNumber token.text.toList)
  | .string => some (ofQuotations [Quotation.ofText token.text.toList])
  | _ =>
      if token.text = "None" then some .none
      else if token.text = "True" || token.text = checkedName then some (.bool true)
      else if token.text = "False" then some (.bool false)
      else if token.text = "..." then some .ellipsis
      else Option.none

mutual

def ofTree? : Tree → Option Constant
  | .leaf token => ofToken? token
  | .node kind _ parts =>
      match kind, parts with
      | .strings, parts =>
          some (ofQuotations ((Tree.membersOf parts).filterMap fun
            | .leaf token => some (Quotation.ofText token.text.toList)
            | .node .. => Option.none))
      | .unary, [.leaf operator, inner] => (ofTree? inner).bind (sign? operator.text)
      | .inversion, [inner] => (ofTree? inner).map fun value => .bool (!value.isTrue)
      | .binary, [left, .leaf operator, right] =>
          (ofTree? left).bind fun left => (ofTree? right).bind fun right =>
            operate? operator.text left right
      | .subscript, [value, index] =>
          (ofTree? value).bind fun value => (ofTree? index).bind fun index => item? value index
      | .tuple, parts => (ofTrees? parts).map .tuple
      | _, _ => Option.none

def ofTrees? : List Tree → Option (List Constant)
  | [] => some []
  | tree :: rest =>
      (match tree with
        | .node .group _ parts => ofTrees? parts
        | .node .row _ parts => ofTrees? parts
        | .node .absent _ _ => some []
        | tree => (ofTree? tree).map fun value => [value]).bind fun values =>
          (ofTrees? rest).map fun more => values ++ more

end

def isEqual (left right : Constant) : Bool :=
  match left, right with
  | .none, .none => true
  | .ellipsis, .ellipsis => true
  | .str a, .str b => a = b
  | .bytes a, .bytes b => a = b
  | _, _ =>
      match left.whole?, right.whole? with
      | some a, some b => a = b
      | _, _ =>
          match left.complex?, right.complex? with
          | some (a, b), some (c, d) => sameNumber a c && sameNumber b d
          | _, _ => false
where
  sameNumber (a b : Option Binary64) : Bool :=
    match a, b with
    | some (.infinite a), some (.infinite b) => a = b
    | some a, some b =>
        match a.ratio?, b.ratio? with
        | some (n, d), some (m, e) => n * e = m * d
        | _, _ => false
    | _, _ => false

def renderPart (value : Option Binary64) : String :=
  let text := (value.map Binary64.render).getD "nan"
  if text.endsWith ".0" then (text.dropEnd 2).toString else text

def renderComplex (real imaginary : Option Binary64) : String :=
  let second := renderPart imaginary ++ "j"
  if isNought real && !((real.map Binary64.isNegative).getD false) then second
  else "(" ++ renderPart real ++ (if second.startsWith "-" then "" else "+") ++ second ++ ")"

def renderCodes (codes : List Nat) : String :=
  let isHalf (code : Nat) : Bool := 0xd800 ≤ code && code < 0xe000
  let plain := (codes.filter (!isHalf ·)).map Char.ofNat
  let mark := Text.quoteMark plain
  String.ofList (mark :: (codes.flatMap fun code =>
    if isHalf code then '\\' :: 'u' :: Text.hexDigits 4 code
    else Text.escapeChar mark (Char.ofNat code)) ++ [mark])

def renderBytes (codes : List Nat) : String :=
  let chars := codes.map Char.ofNat
  let mark := Text.quoteMark chars
  "b" ++ String.ofList (mark :: (chars.flatMap fun c =>
    if c.toNat < 128 then Text.escapeChar mark c else '\\' :: 'x' :: Text.hexDigits 2 c.toNat) ++ [mark])

def render : Constant → String
  | .none => "None"
  | .ellipsis => "Ellipsis"
  | .bool value => if value then "True" else "False"
  | .int value => toString value
  | .float value => (value.map Binary64.render).getD "nan"
  | .complex real imaginary => renderComplex real imaginary
  | .str codes => renderCodes codes
  | .bytes codes => renderBytes codes
  | .tuple _ => "()"

end Constant

namespace Format

def afterDigits? (text : List Char) : Option (List Char) :=
  let digits := text.takeWhile Text.isAsciiDigit
  if 3 ≤ digits.length then none else some (text.drop digits.length)

def afterPlace? (text : List Char) : Option (List Char) :=
  let flags : List Char := ['-', '+', ' ', '#', '0']
  (afterDigits? (text.dropWhile flags.contains)).bind fun rest =>
    (match rest with
      | '.' :: rest => afterDigits? rest
      | rest => some rest).bind fun rest =>
        match rest with
        | c :: rest => if c = 's' || c = 'r' || c = 'a' then some rest else none
        | [] => none

def takes : Nat → Nat → List Char → Bool
  | 0, _, _ => false
  | _ + 1, count, [] => count = 0
  | fuel + 1, count, '%' :: rest =>
      if rest.head? = some '%' then takes fuel count (rest.drop 1)
      else
        match count with
        | 0 => false
        | count + 1 =>
            match afterPlace? rest with
            | some rest => takes fuel count rest
            | none => false
  | fuel + 1, count, _ :: rest => takes fuel count rest

end Format

def isFormatting (tree : Tree) : Bool :=
  match tree with
  | .node .binary _ [left, .leaf operator, .node .tuple _ parts] =>
      let items := Tree.membersOf parts
      operator.text = "%" && (Constant.ofTrees? parts).isNone
        && items.all (·.kind? ≠ some .starred)
        && (match Constant.ofTree? left with
          | some (.str codes) => Format.takes (codes.length + 1) items.length (codes.map Char.ofNat)
          | _ => false)
  | _ => false

def typeOf? (tree : Tree) : Option String :=
  match Constant.ofTree? tree with
  | some value => some value.typeName
  | none =>
      match tree.kind? with
      | some .tuple => some "tuple"
      | some .listDisplay | some .listComp => some "list"
      | some .dictDisplay | some .dictComp => some "dict"
      | some .setDisplay | some .setComp => some "set"
      | some .generator => some "generator"
      | some .lambdaExpr => some "function"
      | some .formatted => some "str"
      | _ => if isFormatting tree then some "str" else none

end MarkupLint.Script
