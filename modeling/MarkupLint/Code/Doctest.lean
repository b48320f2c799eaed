import MarkupLint.Code.Diagnosis
import MarkupLint.Text.Quoted

set_option autoImplicit false

namespace MarkupLint.Code.Doctest

def indentation (line : List Char) : Nat := (line.takeWhile (· = ' ')).length

def startsPrompt (line : List Char) : Bool := Text.startsWith ">>>".toList (line.dropWhile (· = ' '))

def continues (line : List Char) : Bool := Text.startsWith "...".toList (line.dropWhile (· = ' '))

def isEmptyLine (line : List Char) : Bool := line.all (· = ' ')

def spreadTabs : Nat → List Char → List Char
  | _, [] => []
  | column, c :: rest =>
      if c = '\t' then
        List.replicate (8 - column % 8) ' ' ++ spreadTabs (column + (8 - column % 8)) rest
      else if c = '\n' || c = '\r' then c :: spreadTabs 0 rest
      else c :: spreadTabs (column + 1) rest

def sharedIndent (lines : List (List Char)) : Nat :=
  let visible := lines.filter fun line =>
    match (line.dropWhile (· = ' ')).head? with
    | some c => !Text.isBlank c
    | none => false
  match visible.map indentation with
  | [] => 0
  | first :: others => others.foldl min first

structure Example where
  offset : Nat
  source : List (List Char)
  want : List (List Char)
deriving Repr

def examples : Nat → Nat → List (List Char) → List Example
  | 0, _, _ => []
  | _ + 1, _, [] => []
  | fuel + 1, offset, line :: rest =>
      if startsPrompt line then
        let more := rest.takeWhile continues
        let below := rest.drop more.length
        let want := below.takeWhile fun line => !isEmptyLine line && !startsPrompt line
        ⟨offset, line :: more, want⟩
          :: examples fuel (offset + 1 + more.length + want.length) (below.drop want.length)
      else examples fuel (offset + 1) rest

def complaint (line : Nat) (kind text : String) (about : List Char) : Diagnosis :=
  ⟨line, "line " ++ toString line ++ " of the " ++ kind ++ " for <string> " ++ text ++ ": "
    ++ Text.quote (String.ofList about)⟩

def promptFault? (indent : Nat) : Nat → List (List Char) → Option Diagnosis
  | _, [] => none
  | number, line :: rest =>
      match line.drop (indent + 3) with
      | c :: _ =>
          if c ≠ ' ' then
            some (complaint number "docstring" ("lacks blank after "
              ++ String.ofList ((line.drop indent).take 3)) line)
          else promptFault? indent (number + 1) rest
      | [] => promptFault? indent (number + 1) rest

def indentFault? (start : List Char) : Nat → List (List Char) → Option Diagnosis
  | _, [] => none
  | number, line :: rest =>
      if line.isEmpty || Text.startsWith start line then indentFault? start (number + 1) rest
      else some (complaint number "docstring" "has inconsistent leading whitespace" line)

def optionNames : List String :=
  [ "DONT_ACCEPT_TRUE_FOR_1", "DONT_ACCEPT_BLANKLINE", "NORMALIZE_WHITESPACE", "ELLIPSIS", "SKIP",
    "IGNORE_EXCEPTION_DETAIL", "REPORT_UDIFF", "REPORT_CDIFF", "REPORT_NDIFF",
    "REPORT_ONLY_FIRST_FAILURE", "FAIL_FAST" ]

def optionText? : Nat → List Char → Option (List Char × List Char)
  | skip, text =>
      let rest := text.drop skip
      let options := rest.takeWhile fun c => c ≠ '\n' && c ≠ '\'' && c ≠ '"'
      let after := rest.drop options.length
      if after.isEmpty || after.head? = some '\n' then some (options, after)
      else
        match skip with
        | 0 => none
        | fewer + 1 => optionText? fewer text

def optionComments : Nat → List Char → List (List Char)
  | 0, _ => []
  | _ + 1, [] => []
  | fuel + 1, c :: rest =>
      let found := if c = '#' then
          (Text.dropStart? "doctest:".toList (Text.trimLeft rest)).bind fun text =>
            optionText? (text.length - (Text.trimLeft text).length) text
        else none
      match found with
      | some (options, after) => options :: optionComments fuel after
      | none => optionComments fuel rest

def optionWords (text : List Char) : List (List Char) :=
  go (text.length + 1) (text.map fun c => if c = ',' then ' ' else c)
where
  go : Nat → List Char → List (List Char)
    | 0, _ => []
    | fuel + 1, text =>
        match Text.trimLeft text with
        | [] => []
        | rest =>
            let word := rest.takeWhile fun c => !Text.isBlank c
            word :: go fuel (rest.drop word.length)

def isKnownOption : List Char → Bool
  | sign :: name => (sign = '+' || sign = '-') && optionNames.contains (String.ofList name)
  | [] => false

def withoutLastBreak (text : List Char) : List Char :=
  if text.getLast? = some '\n' then text.dropLast else text

def isComment (source : List Char) : Bool :=
  let line := withoutLastBreak source
  !line.contains '\n' &&
    match line.dropWhile (· = ' ') with
    | [] => true
    | c :: _ => c = '#'

def optionFault? (offset : Nat) (source : List Char) : Option Diagnosis :=
  let words := (optionComments (source.length + 1) source).flatMap optionWords
  match words.find? fun word => !isKnownOption word with
  | some word => some (complaint (offset + 1) "doctest" "has an invalid option" word)
  | none =>
      if !words.isEmpty && isComment source then
        some (complaint offset "doctest" "has an option directive on a line with no example" source)
      else none

-- What is wrong with an example: prompts come first, then indentation, then options.
def fault? (example_ : Example) : Option Diagnosis :=
  let indent := (example_.source.head?.map indentation).getD 0
  let spaces := List.replicate indent ' '
  let first := example_.offset + 1
  (promptFault? indent first example_.source).orElse fun _ =>
    (indentFault? (spaces ++ ['.']) first (example_.source.drop 1)).orElse fun _ =>
      (indentFault? spaces (first + example_.source.length) example_.want).orElse fun _ =>
        optionFault? example_.offset
          (Text.joinWith '\n' (example_.source.map fun line => line.drop (indent + 4)))

def diagnose (code : String) : Option Diagnosis :=
  let lines := Text.splitOnChar '\n' (spreadTabs 0 code.toList)
  let indent := sharedIndent lines
  (examples (lines.length + 1) 0 (lines.map (·.drop indent))).findSome? fault?

end MarkupLint.Code.Doctest
