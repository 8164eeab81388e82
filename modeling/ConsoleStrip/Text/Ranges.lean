/-
Tables of character ranges.

* `inRanges`: membership in a sorted table of closed ranges of code points,
  found by bisection.
-/

namespace ConsoleStrip

/-- Bisection over the rows `lo ≤ i < hi` of a sorted table of ranges. The
number of steps is bounded by `fuel`, which halving makes ample at the
number of rows. -/
def inRangesBetween (table : Array (Nat × Nat)) (n : Nat) : (fuel lo hi : Nat) → Bool
  | 0, _, _ => false
  | fuel + 1, lo, hi =>
    if hi ≤ lo then false
    else
      let mid := (lo + hi) / 2
      match table[mid]? with
      | none => false
      | some (a, b) =>
        if n < a then inRangesBetween table n fuel lo mid
        else if b < n then inRangesBetween table n fuel (mid + 1) hi
        else true

/-- The code point of `c` lies in one of the ranges of a sorted table. -/
def inRanges (table : Array (Nat × Nat)) (c : Char) : Bool :=
  inRangesBetween table c.toNat (table.size + 1) 0 table.size

end ConsoleStrip
