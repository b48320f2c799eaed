import MarkupLint.Text.Allotment
import MarkupLint.Text.Decomposition

set_option autoImplicit false

namespace MarkupLint.Text

def partTable : List Allotment := Allotment.ofRows partRows

def markTable : List Allotment := Allotment.ofRows markRows

def pairTable : List Allotment := Allotment.ofRows pairRows

structure Syllables where
  first : Nat := 0xac00
  leading : Nat := 0x1100
  vowel : Nat := 0x1161
  -- One below the first trailing letter, as a syllable may have none.
  trailing : Nat := 0x11a7
  leadings : Nat := 19
  vowels : Nat := 21
  trailings : Nat := 28

namespace Syllables

def size (table : Syllables) : Nat := table.leadings * table.vowels * table.trailings

def letters? (table : Syllables) (code : Nat) : Option (List Nat) :=
  let place := code - table.first
  if table.first ≤ code && place < table.size then
    let last := place % table.trailings
    some ([table.leading + place / (table.vowels * table.trailings),
        table.vowel + place / table.trailings % table.vowels]
      ++ (if last = 0 then [] else [table.trailing + last]))
  else none

def join? (table : Syllables) (first second : Nat) : Option Nat :=
  let place := first - table.first
  if table.leading ≤ first && first < table.leading + table.leadings
      && table.vowel ≤ second && second < table.vowel + table.vowels then
    some (table.first
      + ((first - table.leading) * table.vowels + (second - table.vowel)) * table.trailings)
  else if table.first ≤ first && place < table.size && place % table.trailings = 0
      && table.trailing < second && second < table.trailing + table.trailings then
    some (first + (second - table.trailing))
  else none

end Syllables

def syllables : Syllables := {}

def standsFor (code : Nat) : List Nat :=
  match syllables.letters? code with
  | some letters => letters
  | none =>
      match Allotment.find? partTable code with
      | some ⟨first, _, [part]⟩ => [part + (code - first)]
      | some entry => entry.parts
      | none => [code]

def takeMarksOff : Nat → Nat → List Nat
  | 0, code => standsFor code
  | marks + 1, code =>
      match Allotment.find? pairTable code with
      | some entry => entry.parts.flatMap (takeMarksOff marks)
      | none => standsFor code

def takeApart (code : Nat) : List Nat := takeMarksOff 3 code

def markClass (code : Nat) : Nat :=
  ((Allotment.find? markTable code).bind (·.parts.head?)).getD 0

def placeMark (code : Nat) : List Nat → List Nat
  | [] => [code]
  | other :: rest =>
      if markClass other ≠ 0 && markClass other < markClass code then other :: placeMark code rest
      else code :: other :: rest

def pair? (first second : Nat) : Option Nat :=
  (syllables.join? first second).orElse fun _ =>
    (pairTable.find? fun entry => entry.parts = [first, second]).map (·.first)

-- Puts letters and marks together. The letter is followed by the marks that it has not taken in, last
-- first.
def joinMarks (letter : Nat) (marks : List Nat) : List Nat → List Nat
  | [] => letter :: marks.reverse
  | code :: rest =>
      -- A mark reaches the letter past marks of lower classes only.
      let free := match marks with
        | [] => true
        | mark :: _ => markClass mark < markClass code
      match if free then pair? letter code else none with
      | some joined => joinMarks joined marks rest
      | none =>
          if markClass code = 0 then letter :: marks.reverse ++ joinMarks code [] rest
          else joinMarks letter (code :: marks) rest

def takenApart (text : List Char) : List Nat :=
  (text.flatMap fun c => takeApart c.toNat).foldr placeMark []

def normal (text : List Char) : List Char :=
  let codes := takenApart text
  let (marks, rest) := codes.span (markClass · ≠ 0)
  (marks ++ match rest with
    | [] => []
    | letter :: rest => joinMarks letter [] rest).map Char.ofNat

end MarkupLint.Text
