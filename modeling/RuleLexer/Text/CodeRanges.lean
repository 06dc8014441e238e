/-!
# Sets of code points as ranges

A property of characters is stored as closed ranges of code points in increasing order, and a code
point is looked up by halving the table.
-/

namespace RuleLexer.Text

/-- Closed ranges `(first, last)`, disjoint and in increasing order. -/
abbrev CodeRanges := Array (Nat × Nat)

namespace CodeRanges

/-- Whether `n` lies in one of the ranges with index at least `lo` and below `hi`. -/
def coversBetween (table : CodeRanges) (n lo hi : Nat) : Bool :=
  if lo < hi then
    let mid := (lo + hi) / 2
    match table[mid]? with
    | none => false
    | some (first, last) =>
      if n < first then table.coversBetween n lo mid
      else if last < n then table.coversBetween n (mid + 1) hi
      else true
  else false
termination_by hi - lo

def covers (table : CodeRanges) (n : Nat) : Bool :=
  table.coversBetween n 0 table.size

end CodeRanges

end RuleLexer.Text
