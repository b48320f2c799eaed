import MarkupLint.Text.Letter

set_option autoImplicit false

namespace MarkupLint.Text

-- The numbers from `first` to `last`, and what the first one is given; a single number runs on.
structure Allotment where
  first : Nat
  last : Nat
  parts : List Nat
deriving DecidableEq, Repr

namespace Allotment

def number (text : String) : Nat := hexValue text.toList

def partsOf (target : String) : List Nat := ((target.splitOn "+").filter (· ≠ "")).map number

def ofEntry (entry : String) : List Allotment :=
  match entry.splitOn "=" with
  | [source, target] =>
      match source.splitOn "-" with
      | [first, last] => [⟨number first, number last, partsOf target⟩]
      | _ =>
          (target.splitOn ",").mapIdx fun place part =>
            ⟨number source + place, number source + place, partsOf part⟩
  | _ => []

def ofRows (rows : List String) : List Allotment :=
  rows.flatMap fun row => (row.splitOn " ").flatMap ofEntry

def find? (table : List Allotment) (number : Nat) : Option Allotment :=
  table.find? fun entry => entry.first ≤ number && number ≤ entry.last

end Allotment

end MarkupLint.Text
