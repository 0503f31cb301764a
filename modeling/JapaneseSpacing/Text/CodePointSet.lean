/-!
# Sets of code points

A set of code points is given by its boundaries in ascending order: membership starts
at the first one, ends at the second, starts again at the third, and so on.
-/

namespace JapaneseSpacing

/-- A set of code points, as the places where membership changes. -/
structure CodePointSet where
  boundaries : Array Nat

namespace CodePointSet

/-- How many of the boundaries are at most `code`, given that the first `low` are and
those from `high` on are not. -/
def rank (boundaries : Array Nat) (code low high : Nat) : Nat :=
  if low < high then
    let middle := (low + high) / 2
    if boundaries.getD middle 0 ≤ code then rank boundaries code (middle + 1) high
    else rank boundaries code low middle
  else low
termination_by high - low

/-- Whether a character belongs to the set. -/
def contains (set : CodePointSet) (char : Char) : Bool :=
  rank set.boundaries char.toNat 0 set.boundaries.size % 2 == 1

end CodePointSet

end JapaneseSpacing
