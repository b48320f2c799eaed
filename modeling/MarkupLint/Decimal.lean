set_option autoImplicit false

namespace MarkupLint

-- The number `digits · 10 ^ exponent`.
structure Decimal where
  digits : Nat
  exponent : Int
deriving DecidableEq, Repr

-- A number with at most 53 binary digits, `significand · 2 ^ exponent`, one too large for that, or none at
-- all.
inductive Binary64 where
  | finite (negative : Bool) (significand : Nat) (exponent : Int)
  | infinite (negative : Bool)
  | notNumber
deriving DecidableEq, Repr

namespace Decimal

-- How the first number compares with the second: `a · 10 ^ i` with `n · 2 ^ j`.
def compareScaled (a : Nat) (i : Int) (n : Nat) (j : Int) : Ordering :=
  compare (a * Nat.pow 10 i.toNat * Nat.pow 2 (-j).toNat) (n * Nat.pow 2 j.toNat * Nat.pow 10 (-i).toNat)

def roundQuotient (numerator denominator : Nat) : Nat :=
  let quotient := numerator / denominator
  match compare (2 * (numerator % denominator)) denominator with
  | .lt => quotient
  | .gt => quotient + 1
  | .eq => quotient + quotient % 2

end Decimal

namespace Binary64

def leastExponent : Int := -1074

def greatestExponent : Int := 971

-- The significands are below this bound, and all but those of the least exponent reach half of it.
def significandBound : Nat := Nat.pow 2 53

def ofQuotient (negative : Bool) (numerator denominator : Nat) : Binary64 :=
  let scaled (exponent : Int) : Nat × Nat :=
    (numerator * Nat.pow 2 (-exponent).toNat, denominator * Nat.pow 2 exponent.toNat)
  let guess : Int := (numerator.log2 : Int) - denominator.log2 - 52
  let (n, d) := scaled guess
  let exponent := max leastExponent (if 2 * n < significandBound * d then guess - 1 else guess)
  let (n, d) := scaled exponent
  let significand := Decimal.roundQuotient n d
  let (significand, exponent) := if significand = significandBound
    then (significandBound / 2, exponent + 1) else (significand, exponent)
  if greatestExponent < exponent then .infinite negative else .finite negative significand exponent

def digitCount (number : Nat) : Nat := (Nat.toDigits 10 number).length

def ofDecimal (negative : Bool) (value : Decimal) : Binary64 :=
  let magnitude : Int := value.exponent + digitCount value.digits
  -- Fractions far beyond the range need no arithmetic.
  if value.digits = 0 || magnitude < -400 then .finite negative 0 leastExponent
  else if 400 < magnitude then .infinite negative
  else ofQuotient negative (value.digits * Nat.pow 10 value.exponent.toNat) (Nat.pow 10 (-value.exponent).toNat)

-- Whether a decimal fraction is read as a number: it lies between the points halfway to the neighbours,
-- ends included if the significand is even.
def readsBack (significand : Nat) (exponent : Int) (value : Decimal) : Bool :=
  let narrow := significand = significandBound / 2 && leastExponent < exponent
  let low := if narrow then 4 * significand - 1 else 4 * significand - 2
  let ends := significand % 2 = 0
  let fromLow := Decimal.compareScaled value.digits value.exponent low (exponent - 2)
  let fromHigh := Decimal.compareScaled value.digits value.exponent (4 * significand + 2) (exponent - 2)
  (fromLow = .gt || ends && fromLow = .eq) && (fromHigh = .lt || ends && fromHigh = .eq)

-- The decimal fraction with so many digits that is read as a number, if there is one: the nearer of the two
-- neighbours on that grid. `leading` is the place of the first digit.
def onGrid? (significand : Nat) (exponent leading : Int) (count : Nat) : Option Decimal :=
  let place : Int := leading - count + 1
  let numerator := significand * Nat.pow 2 exponent.toNat * Nat.pow 10 (-place).toNat
  let denominator := Nat.pow 2 (-exponent).toNat * Nat.pow 10 place.toNat
  let below := numerator / denominator
  let nearest := Decimal.roundQuotient numerator denominator
  let other := if nearest = below then below + 1 else below
  ([nearest, other].map fun digits => Decimal.mk digits place).find? (readsBack significand exponent)

def leadingPlace (significand : Nat) (exponent : Int) : Int :=
  let numerator := significand * Nat.pow 2 exponent.toNat
  let denominator := Nat.pow 2 (-exponent).toNat
  if denominator ≤ numerator then (digitCount (numerator / denominator) : Int) - 1
  else
    let shift := digitCount (denominator / numerator)
    if denominator ≤ numerator * Nat.pow 10 (shift - 1) then 1 - (shift : Int) else -(shift : Int)

def shortest (significand : Nat) (exponent : Int) : Decimal :=
  let leading := leadingPlace significand exponent
  -- Seventeen digits are always enough.
  ((List.range 17).findSome? fun count => onGrid? significand exponent leading (count + 1)).getD
    ⟨significand * Nat.pow 5 (-exponent).toNat * Nat.pow 2 exponent.toNat, min exponent 0⟩

def withoutNoughts (digits : List Char) : List Char :=
  let kept := (digits.reverse.dropWhile (· = '0')).reverse
  if kept.isEmpty then ['0'] else kept

-- A decimal fraction as text: plain with the first digit between the fourth place behind the point and the
-- sixteenth before it, else with an exponent of at least two digits.
def layOut (value : Decimal) : String :=
  let all := Nat.toDigits 10 value.digits
  let leading : Int := value.exponent + all.length - 1
  let digits := withoutNoughts all
  let noughts (count : Int) : List Char := List.replicate count.toNat '0'
  String.ofList <|
    if leading < -4 || 15 < leading then
      let exponent := (toString leading.natAbs).toList
      digits.take 1 ++ (if 1 < digits.length then '.' :: digits.drop 1 else [])
        ++ ['e', if leading < 0 then '-' else '+'] ++ noughts (2 - (exponent.length : Int)) ++ exponent
    else if leading < 0 then '0' :: '.' :: noughts (-leading - 1) ++ digits
    else
      let whole := digits ++ noughts (leading + 1 - digits.length)
      let before := leading.toNat + 1
      whole.take before ++ '.' :: (if whole.length ≤ before then ['0'] else whole.drop before)

def render : Binary64 → String
  | .notNumber => "nan"
  | .infinite negative => (if negative then "-" else "") ++ "inf"
  | .finite negative significand exponent =>
      (if negative then "-" else "")
        ++ (if significand = 0 then "0.0" else layOut (shortest significand exponent))

def opposite : Binary64 → Binary64
  | .finite negative significand exponent => .finite (!negative) significand exponent
  | .infinite negative => .infinite (!negative)
  | .notNumber => .notNumber

def isNought : Binary64 → Bool
  | .finite _ significand _ => significand = 0
  | _ => false

def isNegative : Binary64 → Bool
  | .finite negative _ _ => negative
  | .infinite negative => negative
  | .notNumber => false

def ratio? : Binary64 → Option (Int × Nat)
  | .finite negative significand exponent =>
      let numerator : Int := significand * Int.pow 2 exponent.toNat
      some (if negative then -numerator else numerator, Nat.pow 2 (-exponent).toNat)
  | _ => none

def whole? (value : Binary64) : Option Int :=
  value.ratio?.bind fun (numerator, denominator) =>
    if numerator % denominator = 0 then some (numerator / denominator) else none

def ofRatio (numerator : Int) (denominator : Nat) : Binary64 :=
  if numerator = 0 then .finite false 0 leastExponent
  else ofQuotient (decide (numerator < 0)) numerator.natAbs denominator

end Binary64

end MarkupLint
