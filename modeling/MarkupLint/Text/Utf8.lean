set_option autoImplicit false

namespace MarkupLint.Text

inductive Utf8Fault where
  | badStart
  | badContinuation
  | truncated
deriving DecidableEq, Repr

structure Utf8Error where
  bytes : List UInt8
  position : Nat
  fault : Utf8Fault
deriving DecidableEq, Repr

def sequenceShape (first : UInt8) : Option (Nat × UInt8 × UInt8) :=
  if first < 0x80 then some (1, 0x80, 0xbf)
  else if first < 0xc2 then none
  else if first < 0xe0 then some (2, 0x80, 0xbf)
  else if first = 0xe0 then some (3, 0xa0, 0xbf)
  else if first = 0xed then some (3, 0x80, 0x9f)
  else if first < 0xf0 then some (3, 0x80, 0xbf)
  else if first = 0xf0 then some (4, 0x90, 0xbf)
  else if first < 0xf4 then some (4, 0x80, 0xbf)
  else if first = 0xf4 then some (4, 0x80, 0x8f)
  else none

def continuation (low high : UInt8) : Nat → Nat → Nat → List UInt8 →
    Except (Nat × Utf8Fault) (Nat × List UInt8)
  | 0, _, code, rest => .ok (code, rest)
  | _ + 1, seen, _, [] => .error (seen, .truncated)
  | missing + 1, seen, code, byte :: rest =>
      if low ≤ byte && byte ≤ high then
        continuation 0x80 0xbf missing (seen + 1) (code * 64 + (byte.toNat - 0x80)) rest
      else .error (seen, .badContinuation)

def leadBits (length : Nat) (first : UInt8) : Nat :=
  if length = 1 then first.toNat
  else if length = 2 then first.toNat - 0xc0
  else if length = 3 then first.toNat - 0xe0
  else first.toNat - 0xf0

def decodeFrom : Nat → Nat → List UInt8 → Except Utf8Error (List Char)
  | 0, _, _ => .ok []
  | _ + 1, _, [] => .ok []
  | fuel + 1, position, first :: rest =>
      match sequenceShape first with
      | none => .error ⟨[first], position, .badStart⟩
      | some (length, low, high) =>
          match continuation low high (length - 1) 1 (leadBits length first) rest with
          | .error (seen, fault) => .error ⟨(first :: rest).take seen, position, fault⟩
          | .ok (code, rest) =>
              (decodeFrom fuel (position + length) rest).map (Char.ofNat code :: ·)

def decodeUtf8 (bytes : List UInt8) : Except Utf8Error (List Char) :=
  decodeFrom bytes.length 0 bytes

def dropByteOrderMark : List Char → List Char
  | '﻿' :: rest => rest
  | text => text

end MarkupLint.Text
