import MarkupLint.Text.ByteFault
import MarkupLint.Text.Case
import MarkupLint.Text.CodePage
import MarkupLint.Text.Letter
import MarkupLint.Text.Lines
import MarkupLint.Text.Search

set_option autoImplicit false

namespace MarkupLint

inductive Encoding where
  | utf8
  | markedUtf8
  | utf7
  -- Without a known order of the bytes a mark at the start gives it.
  | utf16 (bigEndian : Option Bool)
  | utf32 (bigEndian : Option Bool)
  | ascii
  | latin1
  | codePage (page : CodePage)
  | undefined
deriving DecidableEq, Repr

inductive EncodingError where
  | unknown (name : String)
  | notText (name : String)
  | undefined (name : String)
  | unreadable (name : String) (fault : Text.ByteFault)
deriving DecidableEq, Repr

namespace EncodingError

def message (error : EncodingError) : String :=
  let (name, cause) := match error with
    | .unknown name => (name, "LookupError: unknown encoding: " ++ name)
    | .notText name => (name, "LookupError: '" ++ name ++ "' is not a text encoding; use codecs.decode() "
        ++ "to handle arbitrary codecs")
    | .undefined name => (name, "UnicodeError: undefined encoding")
    | .unreadable name fault => (name, "UnicodeDecodeError: " ++ fault.message)
  "Unable to decode input data.  Tried the following encodings: " ++ Text.quote name ++ ".\n("
    ++ cause ++ ")"

end EncodingError

namespace Encoding

def decodeAscii : Nat → List UInt8 → Except Text.ByteFault (List Char)
  | _, [] => .ok []
  | position, byte :: rest =>
      if byte < 0x80 then (decodeAscii (position + 1) rest).map (Char.ofNat byte.toNat :: ·)
      else .error ⟨"ascii", [byte], position, "ordinal not in range(128)"⟩

def decodePage (page : CodePage) : Nat → List UInt8 → Except Text.ByteFault (List Char)
  | _, [] => .ok []
  | position, byte :: rest =>
      match page.char? byte with
      | some c => (decodePage page (position + 1) rest).map (c :: ·)
      | none => .error ⟨"charmap", [byte], position, "character maps to <undefined>"⟩

def number (bigEndian : Bool) (bytes : List UInt8) : Nat :=
  (if bigEndian then bytes else bytes.reverse).foldl (fun sum byte => sum * 256 + byte.toNat) 0

def isHighHalf (unit : Nat) : Bool := 0xd800 ≤ unit && unit < 0xdc00

def isLowHalf (unit : Nat) : Bool := 0xdc00 ≤ unit && unit < 0xe000

def joinHalves (high low : Nat) : Char :=
  Char.ofNat (0x10000 + (high - 0xd800) * 0x400 + (low - 0xdc00))

def orderName (encoding : String) (bigEndian : Bool) : String :=
  encoding ++ (if bigEndian then "-be" else "-le")

def decodeUtf16 (bigEndian : Bool) : Nat → List UInt8 → Except Text.ByteFault (List Char)
  | _, [] => .ok []
  | position, [byte] => .error (fault position [byte] "truncated data")
  | position, a :: b :: rest =>
      let unit := number bigEndian [a, b]
      if isLowHalf unit then .error (fault position [a, b] "illegal encoding")
      else if isHighHalf unit then
        match rest with
        | c :: d :: rest =>
            let low := number bigEndian [c, d]
            if isLowHalf low then
              (decodeUtf16 bigEndian (position + 4) rest).map (joinHalves unit low :: ·)
            else .error (fault position [a, b] "illegal UTF-16 surrogate")
        | short => .error (fault position (a :: b :: short) "unexpected end of data")
      else (decodeUtf16 bigEndian (position + 2) rest).map (Char.ofNat unit :: ·)
termination_by _ bytes => bytes.length
where
  fault (position : Nat) (bytes : List UInt8) (reason : String) : Text.ByteFault :=
    ⟨orderName "utf-16" bigEndian, bytes, position, reason⟩

def decodeUtf32 (bigEndian : Bool) : Nat → List UInt8 → Except Text.ByteFault (List Char)
  | _, [] => .ok []
  | position, a :: b :: c :: d :: rest =>
      let code := number bigEndian [a, b, c, d]
      if 0x110000 ≤ code then
        .error (fault position [a, b, c, d] "code point not in range(0x110000)")
      else if isHighHalf code || isLowHalf code then
        .error (fault position [a, b, c, d]
          "code point in surrogate code point range(0xd800, 0xe000)")
      else (decodeUtf32 bigEndian (position + 4) rest).map (Char.ofNat code :: ·)
  | position, short => .error (fault position short "truncated data")
where
  fault (position : Nat) (bytes : List UInt8) (reason : String) : Text.ByteFault :=
    ⟨orderName "utf-32" bigEndian, bytes, position, reason⟩

def sixBits? (byte : UInt8) : Option Nat :=
  let code := byte.toNat
  if 65 ≤ code && code ≤ 90 then some (code - 65)
  else if 97 ≤ code && code ≤ 122 then some (code - 97 + 26)
  else if 48 ≤ code && code ≤ 57 then some (code - 48 + 52)
  else if code = 43 then some 62
  else if code = 47 then some 63
  else none

-- A shifted piece being read: where it starts, the bits that are left over, and the first half of a
-- character whose second half must follow.
structure Shift where
  start : Nat
  bits : Nat := 0
  value : Nat := 0
  half : Option Nat := none

def Shift.add (shift : Shift) (six : Nat) : Shift × List Char :=
  let bits := shift.bits + 6
  let value := shift.value * 64 + six
  if bits < 16 then ({ shift with bits := bits, value := value }, [])
  else
    let unit := value / Nat.pow 2 (bits - 16)
    let left := { shift with bits := bits - 16, value := value % Nat.pow 2 (bits - 16), half := none }
    match shift.half with
    | some high =>
        if isLowHalf unit then (left, [joinHalves high unit])
        else if isHighHalf unit then ({ left with half := some unit }, [])
        else (left, [Char.ofNat unit])
    | none => if isHighHalf unit then ({ left with half := some unit }, []) else (left, [Char.ofNat unit])

def Shift.fault? (shift : Shift) : Option String :=
  if 6 ≤ shift.bits then some "partial character in base64 section"
  else if shift.value ≠ 0 then some "non-zero padding bits in base64 section"
  else none

def Shift.isComplete (shift : Shift) : Bool :=
  shift.half.isNone && shift.bits < 6 && (shift.bits = 0 || shift.value = 0)

-- Reads text in which a plus sign shifts to pieces of sixteen bits, six of them in a character.
def decodeUtf7 (all : List UInt8) : Nat → Option Shift → List UInt8 → Except Text.ByteFault (List Char)
  | _, none, [] => .ok []
  | _, some shift, [] =>
      if shift.isComplete then .ok []
      else .error (fault shift.start all.length "unterminated shift sequence")
  | position, shift, byte :: rest => do
      if let some shift := shift then
        if let some six := sixBits? byte then
          let (shift, found) := shift.add six
          return found ++ (← decodeUtf7 all (position + 1) (some shift) rest)
        if let some reason := shift.fault? then throw (fault shift.start (position + 1) reason)
        if byte = 45 then return ← decodeUtf7 all (position + 1) none rest
      if byte = 43 then
        match rest with
        | 45 :: rest => return '+' :: (← decodeUtf7 all (position + 2) none rest)
        | next :: _ =>
            if (sixBits? next).isNone then throw (fault position (position + 2) "ill-formed sequence")
        | [] => pure ()
        decodeUtf7 all (position + 1) (some { start := position }) rest
      else if byte < 0x80 then
        return Char.ofNat byte.toNat :: (← decodeUtf7 all (position + 1) none rest)
      else throw (fault position (position + 1) "unexpected special character")
termination_by _ _ rest => rest.length
where
  fault (first last : Nat) (reason : String) : Text.ByteFault :=
    ⟨"utf7", (all.take last).drop first, first, reason⟩

def decode (encoding : Encoding) (bytes : List UInt8) : Except Text.ByteFault (List Char) :=
  match encoding, bytes with
  | .ascii, bytes => decodeAscii 0 bytes
  | .latin1, bytes => .ok (bytes.map fun byte => Char.ofNat byte.toNat)
  | .codePage page, bytes => decodePage page 0 bytes
  | .utf7, bytes => decodeUtf7 bytes 0 none bytes
  -- A mark at the start that gives the order of the bytes is no part of the text.
  | .markedUtf8, 0xef :: 0xbb :: 0xbf :: rest => (Text.decodeUtf8 rest).mapError (·.fullFault)
  | .utf16 (some bigEndian), bytes => decodeUtf16 bigEndian 0 bytes
  | .utf16 none, 0xfe :: 0xff :: rest => decodeUtf16 true 2 rest
  | .utf16 none, 0xff :: 0xfe :: rest => decodeUtf16 false 2 rest
  | .utf16 none, bytes => decodeUtf16 false 0 bytes
  | .utf32 (some bigEndian), bytes => decodeUtf32 bigEndian 0 bytes
  | .utf32 none, 0x00 :: 0x00 :: 0xfe :: 0xff :: rest => decodeUtf32 true 4 rest
  | .utf32 none, 0xff :: 0xfe :: 0x00 :: 0x00 :: rest => decodeUtf32 false 4 rest
  | .utf32 none, bytes => decodeUtf32 false 0 bytes
  | _, bytes => (Text.decodeUtf8 bytes).mapError (·.fullFault)

def names : Encoding → List String
  | .utf8 => ["utf_8", "utf8", "u8", "utf", "utf8_ucs2", "utf8_ucs4", "cp65001"]
  | .markedUtf8 => ["utf_8_sig"]
  | .utf7 => ["utf_7", "u7", "utf7", "unicode_1_1_utf_7"]
  | .utf16 none => ["utf_16", "utf16", "u16"]
  | .utf16 (some true) => ["utf_16_be", "unicodebigunmarked", "utf_16be"]
  | .utf16 (some false) => ["utf_16_le", "unicodelittleunmarked", "utf_16le"]
  | .utf32 none => ["utf_32", "utf32", "u32"]
  | .utf32 (some true) => ["utf_32_be", "utf_32be"]
  | .utf32 (some false) => ["utf_32_le", "utf_32le"]
  | .ascii => ["ascii", "646", "ansi_x3.4_1968", "ansi_x3_4_1968", "ansi_x3.4_1986", "cp367",
      "csascii", "ibm367", "iso646_us", "iso_646.irv_1991", "iso_ir_6", "us", "us_ascii"]
  | .latin1 => ["latin_1", "8859", "cp819", "csisolatin1", "ibm819", "iso8859", "iso8859_1",
      "iso_8859_1", "iso_8859_1_1987", "iso_ir_100", "l1", "latin", "latin1", "charmap"]
  | .codePage page => page.names
  | .undefined => ["undefined"]

def all : List Encoding :=
  [ .utf8, .markedUtf8, .utf7, .utf16 none, .utf16 (some true), .utf16 (some false), .utf32 none,
    .utf32 (some true), .utf32 (some false), .ascii, .latin1, .undefined ] ++ CodePage.all.map .codePage

def packingNames : List (List String) :=
  [ ["base64_codec", "base64", "base_64"], ["bz2_codec", "bz2"], ["hex_codec", "hex"],
    ["quopri_codec", "quopri", "quoted_printable", "quotedprintable"], ["rot_13", "rot13"],
    ["uu_codec", "uu"], ["zlib_codec", "zip", "zlib"] ]

-- The names of encodings that are known and that no document is read in.
def furtherNames : List (List String) :=
  [ ["big5", "big5_tw", "csbig5", "x_mac_trad_chinese"], ["big5hkscs", "big5_hkscs", "hkscs"],
    ["cp932", "932", "ms932", "mskanji", "ms_kanji"], ["cp949", "949", "ms949", "uhc"],
    ["cp950", "950", "ms950"], ["euc_jis_2004", "jisx0213", "eucjis2004", "euc_jis2004"],
    ["euc_jisx0213", "eucjisx0213"], ["euc_jp", "eucjp", "ujis", "u_jis"],
    ["euc_kr", "euckr", "korean", "ksc5601", "ks_c_5601", "ks_c_5601_1987", "ksx1001", "ks_x_1001", "x_mac_korean"],
    ["gb18030", "gb18030_2000"],
    ["gb2312", "chinese", "csiso58gb231280", "euc_cn", "euccn", "eucgb2312_cn", "gb2312_1980", "gb2312_80", "iso_ir_58", "x_mac_simp_chinese"],
    ["gbk", "936", "cp936", "ms936"], ["hz", "hzgb", "hz_gb", "hz_gb_2312"], ["idna"],
    ["iso2022_jp", "csiso2022jp", "iso2022jp", "iso_2022_jp"],
    ["iso2022_jp_1", "iso2022jp_1", "iso_2022_jp_1"], ["iso2022_jp_2", "iso2022jp_2", "iso_2022_jp_2"],
    ["iso2022_jp_2004", "iso_2022_jp_2004", "iso2022jp_2004"],
    ["iso2022_jp_3", "iso2022jp_3", "iso_2022_jp_3"],
    ["iso2022_jp_ext", "iso2022jp_ext", "iso_2022_jp_ext"],
    ["iso2022_kr", "csiso2022kr", "iso2022kr", "iso_2022_kr"], ["johab", "cp1361", "ms1361"],
    ["punycode"], ["raw_unicode_escape"],
    ["shift_jis", "csshiftjis", "shiftjis", "sjis", "s_jis", "x_mac_japanese"],
    ["shift_jis_2004", "shiftjis2004", "sjis_2004", "s_jis_2004"],
    ["shift_jisx0213", "shiftjisx0213", "sjisx0213", "s_jisx0213"], ["unicode_escape"] ]

def plainName (name : String) : String :=
  let signs := (Text.toLower name).toList.map fun c =>
    if Text.isAsciiLetter c || Text.isAsciiDigit c || c = '.' then c else '_'
  "_".intercalate (((Text.splitOnChar '_' signs).filter (· ≠ [])).map String.ofList)

def isAmong (names : List String) (name : String) : Bool :=
  let plain := plainName name
  names.contains plain
    -- All but the first may have points in place of low lines.
    || (names.drop 1).contains (String.ofList (plain.toList.map fun c => if c = '.' then '_' else c))

def ofName? (name : String) : Option Encoding := all.find? fun encoding => isAmong encoding.names name

def isPacking (name : String) : Bool := packingNames.any fun names => isAmong names name

def isKnown (name : String) : Bool :=
  (ofName? name).isSome || isPacking name || furtherNames.any fun names => isAmong names name

def markName? : List UInt8 → Option String
  | 0x00 :: 0x00 :: 0xfe :: 0xff :: _ => some "utf-32"
  | 0xff :: 0xfe :: 0x00 :: 0x00 :: _ => some "utf-32"
  | 0xef :: 0xbb :: 0xbf :: _ => some "utf-8-sig"
  | 0xfe :: 0xff :: _ => some "utf-16"
  | 0xff :: 0xfe :: _ => some "utf-16"
  | _ => none

def isNameSign (c : Char) : Bool :=
  c = '-' || c = '_' || c = '.' || Text.isAsciiLetter c || Text.isAsciiDigit c

def isGap (c : Char) : Bool := c = ' ' || c = '\t' || c = '\x0b' || c = '\x0c'

def lineName? : List Char → Option String
  | [] => none
  | c :: rest =>
      match Text.dropStart? "coding:".toList (c :: rest) <|> Text.dropStart? "coding=".toList (c :: rest) with
      | some after =>
          match (after.dropWhile isGap).takeWhile isNameSign with
          | [] => lineName? rest
          | name => some (String.ofList name)
      | none => lineName? rest

def firstLines (bytes : List UInt8) : List (List Char) :=
  (Text.splitOnChar '\n' (Text.unifyLineEnds (bytes.map fun byte => Char.ofNat byte.toNat))).take 2

def nameOf (bytes : List UInt8) : String :=
  (markName? bytes <|> (firstLines bytes).findSome? lineName?).getD "utf-8"

def readAs (name : String) (bytes : List UInt8) : Except EncodingError (List Char) :=
  match ofName? name with
  | none => .error (if isPacking name then .notText name else .unknown name)
  | some .undefined => .error (.undefined name)
  | some encoding => (encoding.decode bytes).mapError (.unreadable name)

def readText (bytes : List UInt8) : Except EncodingError (List Char) := readAs (nameOf bytes) bytes

end Encoding

end MarkupLint
