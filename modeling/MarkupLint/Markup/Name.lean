import MarkupLint.Text.Ascii
import MarkupLint.Text.Blank
import MarkupLint.Text.Case

set_option autoImplicit false

namespace MarkupLint.Markup

def words (text : List Char) : List (List Char) := wordsFrom (text.length + 1) text
where
  wordsFrom : Nat → List Char → List (List Char)
    | 0, _ => []
    | fuel + 1, text =>
        match Text.trimLeft text with
        | [] => []
        | rest =>
            let word := rest.takeWhile fun c => !Text.isBlank c
            word :: wordsFrom fuel (rest.drop word.length)

def squeeze (text : List Char) : List Char := (words text).intersperse [' '] |>.flatten

def normalName (name : String) : String := String.ofList (squeeze (Text.lower name.toList))

def squeezedName (name : String) : String := String.ofList (squeeze name.toList)

def isIdentifierLetter (c : Char) : Bool := ('a' ≤ c && c ≤ 'z') || ('0' ≤ c && c ≤ '9')

def dashed : Bool → List Char → List Char
  | _, [] => []
  | inRun, c :: rest =>
      if isIdentifierLetter c then c :: dashed false rest
      else if inRun then dashed true rest
      else '-' :: dashed true rest

-- The identifier of a name: plain small letters, digits and dashes, starting with a letter and ending
-- without a dash. It may be empty.
def identifierOf (name : String) : String :=
  let plain := (Text.lower name.toList).flatMap Text.plainForm
  let body := dashed false (squeeze plain)
  let started := body.dropWhile fun c => c = '-' || ('0' ≤ c && c ≤ '9')
  String.ofList (started.reverse.dropWhile (· = '-')).reverse

end MarkupLint.Markup
