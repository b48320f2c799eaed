import MarkupLint.Format.Json
import MarkupLint.Text.Digit
import MarkupLint.Text.Search
import MarkupLint.Text.Letter

set_option autoImplicit false

namespace MarkupLint.Json

inductive Fault where
  | byteOrderMark
  | noValue
  | noPropertyName
  | noComma
  | noColon
  | extraData
  | openString
  | controlChar
  | badEscape
  | badUnicodeEscape
deriving DecidableEq, Repr

inductive Nested where
  | array
  | object
deriving DecidableEq, Repr

-- Why a text is no JSON. A fault in its syntax is at a place; `left` counts the characters from there to
-- the end.
inductive ReadError where
  | fault (kind : Fault) (left : Nat)
  | longNumber (digits : Nat)
  | tooDeep (kind : Nested)
deriving DecidableEq, Repr

def fail {α : Type} (kind : Fault) (rest : List Char) : Except ReadError α :=
  .error (.fault kind rest.length)

def isSpace (c : Char) : Bool := c = ' ' || c = '\t' || c = '\n' || c = '\r'

def skipSpace (text : List Char) : List Char := text.dropWhile isSpace

-- The number written with four hexadecimal digits, if at least one more character follows them.
def fourHex? : List Char → Option (Nat × List Char)
  | a :: b :: c :: d :: next :: rest =>
      if [a, b, c, d].all Text.isHexDigit then some (Text.hexValue [a, b, c, d], next :: rest) else none
  | _ => none

def escapedChar? : Char → Option Char
  | '"' => some '"'
  | '\\' => some '\\'
  | '/' => some '/'
  | 'b' => some (Char.ofNat 8)
  | 'f' => some (Char.ofNat 12)
  | 'n' => some '\n'
  | 'r' => some '\r'
  | 't' => some '\t'
  | _ => none

def unicodeChar (code : Nat) (rest : List Char) : Char × List Char :=
  if 0xd800 ≤ code && code < 0xdc00 then
    match rest with
    | '\\' :: 'u' :: after =>
        match fourHex? after with
        | some (low, afterLow) =>
            if 0xdc00 ≤ low && low < 0xe000 then
              (Char.ofNat (0x10000 + (code - 0xd800) * 0x400 + (low - 0xdc00)), afterLow)
            -- Halves of a pair that stand alone have no character and become the replacement
            -- character.
            else (Char.ofNat 0xfffd, rest)
        | none => (Char.ofNat 0xfffd, rest)
    | _ => (Char.ofNat 0xfffd, rest)
  else if 0xdc00 ≤ code && code < 0xe000 then (Char.ofNat 0xfffd, rest)
  else (Char.ofNat code, rest)

-- Whether a high surrogate is followed by an escape that is cut short or malformed.
def badLowSurrogate (code : Nat) : List Char → Bool
  | '\\' :: 'u' :: after =>
      0xd800 ≤ code && code < 0xdc00 && after.length > 4 && (fourHex? after).isNone
  | _ => false

def readString (start : List Char) : Nat → List Char → List Char → Except ReadError (String × List Char)
  | 0, _, _ => fail .openString start
  | _ + 1, _, [] => fail .openString start
  | fuel + 1, done, c :: rest =>
      if c = '"' then .ok (String.ofList done.reverse, rest)
      else if c = '\\' then
        match rest with
        | [] => fail .openString start
        | 'u' :: after =>
            match fourHex? after with
            | none => fail .badUnicodeEscape rest
            | some (code, afterCode) =>
                if badLowSurrogate code afterCode then fail .badUnicodeEscape (afterCode.drop 1)
                else
                  let (char, remaining) := unicodeChar code afterCode
                  readString start fuel (char :: done) remaining
        | letter :: after =>
            match escapedChar? letter with
            | some char => readString start fuel (char :: done) after
            | none => fail .badEscape (c :: rest)
      else if c.toNat < 0x20 then fail .controlChar (c :: rest)
      else readString start fuel (c :: done) rest

def fraction : List Char → List Char × List Char
  | '.' :: rest =>
      let digits := rest.takeWhile Text.isAsciiDigit
      if digits.isEmpty then ([], '.' :: rest) else ('.' :: digits, rest.drop digits.length)
  | text => ([], text)

def exponent : List Char → List Char × List Char
  | [] => ([], [])
  | mark :: rest =>
      if mark = 'e' || mark = 'E' then
        let sign := rest.take (if rest.head? = some '-' || rest.head? = some '+' then 1 else 0)
        let digits := (rest.drop sign.length).takeWhile Text.isAsciiDigit
        if digits.isEmpty then ([], mark :: rest)
        else (mark :: sign ++ digits, rest.drop (sign.length + digits.length))
      else ([], mark :: rest)

def wholeDigits (text : List Char) : List Char :=
  match text with
  | '0' :: _ => ['0']
  | _ => text.takeWhile Text.isAsciiDigit

def readNumber (text : List Char) : Except ReadError (Json × List Char) :=
  let sign := text.take (if text.head? = some '-' then 1 else 0)
  let whole := wholeDigits (text.drop sign.length)
  if whole.isEmpty then fail .noValue text
  else
    let (fractionPart, rest) := fraction (text.drop (sign.length + whole.length))
    let (exponentPart, rest) := exponent rest
    if fractionPart.isEmpty && exponentPart.isEmpty && whole.length > Text.maxDigits then
      .error (.longNumber whole.length)
    else .ok (.number (String.ofList (sign ++ whole ++ fractionPart ++ exponentPart)), rest)

def words : List (String × Json) :=
  [ ("null", .null), ("true", .bool true), ("false", .bool false), ("NaN", .number "NaN"),
    ("Infinity", .number "Infinity"), ("-Infinity", .number "-Infinity") ]

def word? (text : List Char) : Option (Json × List Char) :=
  words.findSome? fun (word, value) =>
    (Text.dropStart? word.toList text).map fun rest => (value, rest)

def readScalar (text : List Char) : Except ReadError (Json × List Char) :=
  match word? text with
  | some found => .ok found
  | none => readNumber text

mutual

def readValue (depth : Nat) : Nat → List Char → Except ReadError (Json × List Char)
  | 0, text => fail .noValue text
  | fuel + 1, text =>
      match text with
      | '"' :: rest => do
          let (content, rest) ← readString text (rest.length + 1) [] rest
          pure (.string content, rest)
      | '[' :: rest =>
          if depth = 0 then .error (.tooDeep .array)
          else
            match skipSpace rest with
            | ']' :: rest => .ok (.array [], rest)
            | rest => readElements (depth - 1) fuel [] rest
      | '\x7b' :: rest =>
          if depth = 0 then .error (.tooDeep .object)
          else
            match skipSpace rest with
            | '\x7d' :: rest => .ok (.object [], rest)
            | rest => readMembers (depth - 1) fuel [] rest
      | _ => readScalar text

def readElements (depth : Nat) : Nat → List Json → List Char → Except ReadError (Json × List Char)
  | 0, _, text => fail .noValue text
  | fuel + 1, done, text => do
      let (item, rest) ← readValue depth fuel text
      match skipSpace rest with
      | ']' :: rest => pure (.array (item :: done).reverse, rest)
      | ',' :: rest => readElements depth fuel (item :: done) (skipSpace rest)
      | rest => fail .noComma rest

def readMembers (depth : Nat) : Nat → List (String × Json) → List Char → Except ReadError (Json × List Char)
  | 0, _, text => fail .noValue text
  | fuel + 1, done, text => do
      match text with
      | '"' :: rest =>
          let (name, rest) ← readString text (rest.length + 1) [] rest
          match skipSpace rest with
          | ':' :: rest =>
              let (item, rest) ← readValue depth fuel (skipSpace rest)
              let done := setMember name item done
              match skipSpace rest with
              | '\x7d' :: rest => pure (.object done, rest)
              | ',' :: rest => readMembers depth fuel done (skipSpace rest)
              | rest => fail .noComma rest
          | rest => fail .noColon rest
      | _ => fail .noPropertyName text

end

def read (depth : Nat) (text : List Char) : Except ReadError Json :=
  match text with
  | '﻿' :: _ => fail .byteOrderMark text
  | _ => do
      let (result, rest) ← readValue depth (2 * text.length + 2) (skipSpace text)
      match skipSpace rest with
      | [] => pure result
      | rest => fail .extraData rest

def lineAfter (before : List Char) : Nat := before.count '\n' + 1

def columnAfter (before : List Char) : Nat := (before.reverse.takeWhile (· ≠ '\n')).length + 1

namespace Fault

def text : Fault → String
  | .byteOrderMark => "Unexpected UTF-8 BOM (decode using utf-8-sig)"
  | .noValue => "Expecting value"
  | .noPropertyName => "Expecting property name enclosed in double quotes"
  | .noComma => "Expecting ',' delimiter"
  | .noColon => "Expecting ':' delimiter"
  | .extraData => "Extra data"
  | .openString => "Unterminated string starting at"
  | .controlChar => "Invalid control character at"
  | .badEscape => "Invalid \\escape"
  | .badUnicodeEscape => "Invalid \\uXXXX escape"

def message (fault : Fault) (before : List Char) : String :=
  fault.text ++ ": line " ++ toString (lineAfter before) ++ " column " ++ toString (columnAfter before)
    ++ " (char " ++ toString before.length ++ ")"

end Fault

end MarkupLint.Json
