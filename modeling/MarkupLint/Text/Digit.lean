import MarkupLint.Text.Blank
import MarkupLint.Text.Lines

set_option autoImplicit false

namespace MarkupLint.Text

def zeroDigits : List Nat :=
  [ 0x30, 0x660, 0x6f0, 0x7c0, 0x966, 0x9e6, 0xa66, 0xae6, 0xb66, 0xbe6, 0xc66, 0xce6, 0xd66,
    0xde6, 0xe50, 0xed0, 0xf20, 0x1040, 0x1090, 0x17e0, 0x1810, 0x1946, 0x19d0, 0x1a80, 0x1a90,
    0x1b50, 0x1bb0, 0x1c40, 0x1c50, 0xa620, 0xa8d0, 0xa900, 0xa9d0, 0xa9f0, 0xaa50, 0xabf0,
    0xff10, 0x104a0, 0x10d30, 0x11066, 0x110f0, 0x11136, 0x111d0, 0x112f0, 0x11450, 0x114d0,
    0x11650, 0x116c0, 0x11730, 0x118e0, 0x11950, 0x11c50, 0x11d50, 0x11da0, 0x16a60, 0x16ac0,
    0x16b50, 0x1d7ce, 0x1d7d8, 0x1d7e2, 0x1d7ec, 0x1d7f6, 0x1e140, 0x1e2f0, 0x1e950, 0x1fbf0 ]

def digitValue? (c : Char) : Option Nat :=
  (zeroDigits.find? fun first => first ≤ c.toNat && c.toNat < first + 10).map fun first => c.toNat - first

def isDigit (c : Char) : Bool := (digitValue? c).isSome

def digitsValue (digits : List Char) : Nat :=
  digits.foldl (fun value c => 10 * value + (digitValue? c).getD 0) 0

inductive NumberError where
  | malformed (text : String)
  | tooLong (digits : Nat)
deriving DecidableEq, Repr

def maxDigits : Nat := 4300

def splitSign : List Char → Bool × List Char
  | '-' :: rest => (true, rest)
  | '+' :: rest => (false, rest)
  | text => (false, text)

-- White space that may stand around a number: no separators of ASCII, but every space beyond it.
def isNumberSpace (c : Char) : Bool :=
  if c.toNat < 127 then c = ' ' || (0x09 ≤ c.toNat && c.toNat ≤ 0x0d) else isBlank c

-- Reads a whole number: white space around it, an optional sign, digits of any script with single
-- underscores between them.
def readInteger (text : String) : Except NumberError Int :=
  let (negative, unsigned) := splitSign (text.toList.dropWhile isNumberSpace)
  let row := unsigned.takeWhile fun c => isDigit c || c = '_'
  let groups := splitOnChar '_' row
  if groups.any (·.isEmpty) then .error (.malformed text)
  else
    let digits := groups.flatten
    -- A row of too many digits is refused as such, whatever follows it.
    if maxDigits < digits.length then .error (.tooLong digits.length)
    else if (unsigned.drop row.length).all isNumberSpace then
      let magnitude : Int := digitsValue digits
      .ok (if negative then -magnitude else magnitude)
    else .error (.malformed text)

end MarkupLint.Text
