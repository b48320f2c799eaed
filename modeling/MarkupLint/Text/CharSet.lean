set_option autoImplicit false

namespace MarkupLint.Text

structure CharSet where
  bounds : Array Nat
deriving Repr

namespace CharSet

def sums (start : Nat) : List Nat → List Nat
  | [] => []
  | step :: rest => (start + step) :: sums (start + step) rest

def ofSteps (rows : List String) : CharSet :=
  ⟨(sums 0 (rows.flatMap fun row => (row.splitOn " ").filterMap String.toNat?)).toArray⟩

-- How many of the bounds from `low` up to `high` lie at or below the code, by halving.
def rank (bounds : Array Nat) (code : Nat) : Nat → Nat → Nat → Nat
  | 0, low, _ => low
  | fuel + 1, low, high =>
      if low < high then
        let middle := (low + high) / 2
        if bounds.getD middle 0 ≤ code then rank bounds code fuel (middle + 1) high
        else rank bounds code fuel low middle
      else low

def contains (set : CharSet) (c : Char) : Bool :=
  rank set.bounds c.toNat (set.bounds.size + 1) 0 set.bounds.size % 2 = 1

end CharSet

end MarkupLint.Text
