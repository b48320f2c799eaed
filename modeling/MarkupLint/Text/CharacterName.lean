import MarkupLint.Text.Letter
import MarkupLint.Text.NameTree

set_option autoImplicit false

namespace MarkupLint.Text

-- A word of the tree: the number that a run of words goes up to, whether a name ends with the word, whether
-- words follow it, which ones where they are shared, and how many rows of words end after it.
structure NameWord where
  word : List Char
  upTo : List Char
  ends : Bool
  leads : Bool
  shared : Option Nat
  closes : Nat
deriving Repr

def frequentWords : Array String := ((frequentRows.splitOn "\n").flatMap (·.splitOn " ")).toArray

def spelledWord (letters : List Char) : List Char :=
  match letters.map fun c => if 'a' ≤ c && c ≤ 'z' then some (c.toNat - 'a'.toNat) else none with
  | [some place] => (frequentWords.getD place "").toList
  | [some first, some second] => (frequentWords.getD (26 * (first + 1) + second) "").toList
  | _ => letters

def isNameMark (c : Char) : Bool := c = '*' || c = '+' || c = '.'

namespace NameWord

def ofText (text : List Char) : NameWord :=
  let (letters, marks) := text.span (!isNameMark ·)
  { word := spelledWord (letters.takeWhile (· ≠ '~'))
    upTo := (letters.dropWhile (· ≠ '~')).drop 1
    ends := !marks.contains '+'
    leads := marks.any fun c => c = '*' || c = '+'
    shared := (String.ofList (marks.filter Char.isDigit)).toNat?
    closes := marks.countP (· = '.') }

def opens (entry : NameWord) : Nat := if entry.leads && entry.shared.isNone then 1 else 0

def covers (entry : NameWord) (word : List Char) : Bool :=
  let (stem, first) := entry.word.splitAt (entry.word.length - entry.upTo.length)
  let (start, number) := word.splitAt stem.length
  start = stem && number.length = entry.upTo.length && number.all Char.isDigit
    && hexValue first ≤ hexValue number && hexValue number ≤ hexValue entry.upTo

end NameWord

-- Cuts a row behind the marks of a word and the number among them, and at spaces.
def wordsOfRow (word : List Char) (marked : Bool) : List Char → List (List Char)
  | [] => [word.reverse]
  | c :: rest =>
      if c = ' ' then word.reverse :: wordsOfRow [] false rest
      else if isNameMark c then wordsOfRow (c :: word) true rest
      else if marked && !c.isDigit then word.reverse :: wordsOfRow [c] false rest
      else wordsOfRow (c :: word) marked rest

def nameWords (table : String) : List NameWord :=
  (table.splitOn "\n").flatMap fun row => (wordsOfRow [] false row.toList).map NameWord.ofText

def nameTree : List NameWord := nameWords nameRows

def sharedNames : List NameWord := nameWords sharedRows

def afterRows : Nat → Nat → List NameWord → List NameWord
  | 0, _, entries => entries
  | _ + 1, _, [] => []
  | count + 1, depth, entry :: rest =>
      if depth + entry.opens < entry.closes then afterRows count 0 rest
      else afterRows (count + 1) (depth + entry.opens - entry.closes) rest

def entryOf? (word : List Char) : Nat → List NameWord → Option (NameWord × List NameWord)
  | _, [] => none
  | depth, entry :: rest =>
      if depth = 0 && entry.covers word then some (entry, rest)
      else if depth + entry.opens < entry.closes then none
      else entryOf? word (depth + entry.opens - entry.closes) rest

def spellsName : List String → List NameWord → Bool
  | [], _ => false
  | word :: more, entries =>
      match entryOf? word.toList 0 entries with
      | none => false
      | some (entry, rest) =>
          if more.isEmpty then entry.ends
          else
            let next := match entry.shared with
              | some count => afterRows count 0 sharedNames
              | none => rest
            entry.leads && spellsName more next

def numberedNames : List (String × List (Nat × Nat)) :=
  [ ("CJK COMPATIBILITY IDEOGRAPH-", [(0xf900, 0xfa6d), (0xfa70, 0xfad9), (0x2f800, 0x2fa1d)]),
    ("KHITAN SMALL SCRIPT CHARACTER-", [(0x18b00, 0x18cd5)]),
    ("NUSHU CHARACTER-", [(0x1b170, 0x1b2fb)]) ]

def ideographTitle : String := "CJK UNIFIED IDEOGRAPH-"

def ideographs : List (Nat × Nat) :=
  [ (0x3400, 0x4dbf), (0x4e00, 0x9fff), (0x20000, 0x2a6df), (0x2a700, 0x2b738), (0x2b740, 0x2b81d),
    (0x2b820, 0x2cea1), (0x2ceb0, 0x2ebe0), (0x30000, 0x3134a) ]

def numbersIn (runs : List (Nat × Nat)) (digits : List Char) : Bool :=
  (digits.length = 4 || digits.length = 5)
    && digits.all (fun c => isHexDigit c && !('a' ≤ c && c ≤ 'f'))
    && runs.any fun (first, last) => first ≤ hexValue digits && hexValue digits ≤ last

def syllableTitle : String := "HANGUL SYLLABLE "

def leadingNames : List String :=
  [ "G", "GG", "N", "D", "DD", "R", "M", "B", "BB", "S", "SS", "", "J", "JJ", "C", "K", "T", "P", "H" ]

def vowelNames : List String :=
  [ "A", "AE", "YA", "YAE", "EO", "E", "YEO", "YE", "O", "WA", "WAE", "OE", "YO", "U", "WEO", "WE", "WI",
    "YU", "EU", "YI", "I" ]

def trailingNames : List String :=
  [ "", "G", "GG", "GS", "N", "NJ", "NH", "D", "L", "LG", "LM", "LB", "LS", "LT", "LP", "LH", "M", "B",
    "BS", "S", "SS", "NG", "J", "C", "K", "T", "P", "H" ]

def afterLongest? (names : List String) (text : List Char) : Option (List Char) :=
  let sizes := (names.filter fun name => name.toList.isPrefixOf text).map String.length
  if sizes.isEmpty then none else some (text.drop (sizes.foldl max 0))

def spellsSyllable (text : List Char) : Bool :=
  (((afterLongest? leadingNames text).bind (afterLongest? vowelNames)).bind
    (afterLongest? trailingNames)) = some []

def isCharacterName (name : List Char) : Bool :=
  if syllableTitle.toList.isPrefixOf name then spellsSyllable (name.drop syllableTitle.length)
  else if ideographTitle.toList.isPrefixOf name then
    numbersIn ideographs (name.drop ideographTitle.length)
  else
    let upper := name.map Char.toUpper
    (numberedNames.any fun (title, runs) =>
        title.toList.isPrefixOf upper && numbersIn runs (upper.drop title.length))
      || spellsName ((String.ofList upper).splitOn " ") nameTree

end MarkupLint.Text
