/-
Tables of runs.

A table that gives every code point a value is written as a text of runs, each
a number of code points and the value that they share, in letters.

* `RunTable.ofString`: the table of such a text;
* `RunTable.valueAt`: the value of a code point, found by bisection;
* `flags`: a table of a property that code points have or have not, written
  as the lengths of runs that have it not and runs that have it, in turn.
-/
import ConsoleStrip.Text.Ranges

namespace ConsoleStrip

/-- The code points at which runs start, with the value of each run. -/
structure RunTable where
  runs : Array (Nat × String)
deriving Inhabited

namespace RunTable

/-- A text of runs that is being read. -/
structure Reading where
  start : Nat := 0
  count : Nat := 0
  value : List Char := []
  runs : Array (Nat × String) := #[]

/-- Ends a run. -/
def Reading.flush (r : Reading) : Reading :=
  if r.value.isEmpty then r
  else ⟨r.start + r.count, 0, [], r.runs.push (r.start, String.ofList r.value.reverse)⟩

/-- Reads a character. -/
def Reading.step (r : Reading) (c : Char) : Reading :=
  if c.isDigit then
    let r := r.flush
    { r with count := 10 * r.count + (c.toNat - '0'.toNat) }
  else { r with value := c :: r.value }

/-- The table of a text of runs. -/
def ofString (s : String) : RunTable :=
  ⟨(s.toList.foldl Reading.step ({} : Reading)).flush.runs⟩

/-- Bisection over the rows `lo ≤ i < hi`: the last row that starts at or
before a code point. -/
def findBetween (t : RunTable) (n : Nat) : (fuel lo hi : Nat) → Option String
  | 0, _, _ => none
  | fuel + 1, lo, hi =>
    if hi ≤ lo then (t.runs[lo - 1]?).map (·.2)
    else
      let mid := (lo + hi) / 2
      match t.runs[mid]? with
      | none => none
      | some (start, _) =>
        if n < start then findBetween t n fuel lo mid else findBetween t n fuel (mid + 1) hi

/-- The value of a character. -/
def valueAt (t : RunTable) (c : Char) : String :=
  (t.findBetween c.toNat (t.runs.size + 1) 0 t.runs.size).getD ""

end RunTable

/-- The ranges of a property that is written as the lengths of runs. -/
def flags (s : String) : Array (Nat × Nat) :=
  let lengths := (s.splitOn " ").map fun w => w.toNat?.getD 0
  let step (r : Nat × Bool × Array (Nat × Nat)) (n : Nat) : Nat × Bool × Array (Nat × Nat) :=
    let (start, inside, acc) := r
    (start + n, !inside, if inside then acc.push (start, start + n - 1) else acc)
  (lengths.foldl step (0, false, #[])).2.2

end ConsoleStrip
