/-
How large the automaton of a regular expression is.

* `Regex.CharSet.runs`: a set as runs of code points;
* `Regex.byteRuns`: the encodings of a run, as runs of bytes;
* `Regex.Expr.bytes`: the size of an automaton that reads bytes, forwards or
  backwards;
* `Regex.Expr.isTooLarge`: the automaton is larger than is allowed.
-/
import ConsoleStrip.Regex.Expr

namespace ConsoleStrip

namespace Regex

/-! ### Runs -/

/-- Numbers from one to another. -/
abbrev Run := Nat × Nat

/-- The runs of members of a set among some code points from a given one on,
after a run that has not ended. -/
def CharSet.runsFrom (s : CharSet) : (count n : Nat) → (current : Option Run) → List Run
  | 0, _, current => current.toList
  | count + 1, n, current =>
    let isMember := (n < 0xD800 || 0xE000 ≤ n) && s (Char.ofNat n)
    match isMember, current with
    | true, none => runsFrom s count (n + 1) (some (n, n))
    | true, some (first, _) => runsFrom s count (n + 1) (some (first, n))
    | false, none => runsFrom s count (n + 1) none
    | false, some run => run :: runsFrom s count (n + 1) none

/-- The runs of members of a set. -/
def CharSet.runs (s : CharSet) : List Run := s.runsFrom 0x110000 0 none

/-- The last code point of the first part of a run whose encodings are not the
bytes of some runs one after another. -/
def cut? (first last : Nat) : Option Nat :=
  let lengths := [0x7F, 0x7FF, 0xFFFF].find? fun m => first ≤ m && m < last
  lengths <|> [64, 64 * 64, 64 * 64 * 64].findSome? fun m =>
    if last < 0x80 || first / m == last / m then none
    else if first % m != 0 then some (first / m * m + m - 1)
    else if last % m != m - 1 then some (last / m * m - 1)
    else none

/-- The bytes of a code point. -/
def encoding (n : Nat) : List Nat :=
  (String.singleton (Char.ofNat n)).toUTF8.toList.map UInt8.toNat

/-- The encodings of a run, as runs of bytes one after another. `fuel` bounds
how often a run is cut. -/
def byteRuns : (fuel : Nat) → Run → List (List Run)
  | 0, _ => []
  | fuel + 1, (first, last) =>
    match cut? first last with
    | some m => byteRuns fuel (first, m) ++ byteRuns fuel (m + 1, last)
    | none => [(encoding first).zip (encoding last)]

/-- The heads of some lists, each with the tails that follow it. -/
def byHead : List (List Run) → List (Run × List (List Run))
  | [] => []
  | [] :: rest => byHead rest
  | (r :: rs) :: rest =>
    match byHead rest with
    | (r', tails) :: more =>
      if r == r' then (r, rs :: tails) :: more else (r, [rs]) :: (r', tails) :: more
    | [] => [(r, [rs])]

/-! ### Sets -/

/-- The size of a state. -/
def stateBytes : Nat := 32

/-- The size of a way from a state that is chosen by a byte. -/
def arrowBytes : Nat := 8

/-- The size of a way from a state that is free. -/
def branchBytes : Nat := 4

/-- What can follow in some lists, after any start of one. Lists are at most
`depth` long. -/
def followers : (depth : Nat) → List (List Run) → List (List (List Run))
  | 0, _ => []
  | depth + 1, seqs =>
    match byHead seqs with
    | [] => []
    | heads => seqs :: heads.flatMap fun (_, tails) => followers depth tails

/-- The number of ways that some lists start. -/
def starts : (depth : Nat) → List (List Run) → Nat
  | 0, _ => 0
  | depth + 1, seqs =>
    ((byHead seqs).map fun (_, tails) => 1 + starts depth tails).foldl (· + ·) 0

/-- The size of the automaton of some runs of bytes one after another. Forwards
there is a state for all that can follow, backwards for all that came before. -/
def seqsBytes (backwards : Bool) (seqs : List (List Run)) : Nat :=
  if backwards then
    (starts 4 seqs + 2) * stateBytes + seqs.length * branchBytes
  else
    let states := (followers 4 seqs).eraseDups
    stateBytes
      + (states.map fun q => stateBytes + (byHead q).length * arrowBytes).foldl (· + ·) 0

/-- The size of the automaton of a set. -/
def CharSet.bytes (backwards : Bool) (s : CharSet) : Nat :=
  match s.runs with
  | [] => stateBytes
  | [(first, last)] =>
    if first == last then (encoding first).length * stateBytes
    else if last < 0x80 then 2 * stateBytes + arrowBytes
    else seqsBytes backwards (byteRuns 32 (first, last))
  | runs =>
    if runs.all (·.2 < 0x80) then 2 * stateBytes + runs.length * arrowBytes
    else seqsBytes backwards (runs.flatMap (byteRuns 32))

/-! ### Expressions -/

namespace Expr

/-- The least length of what is matched is not zero. -/
def takesSome : Expr → Bool
  | empty | look _ => false
  | char _ | set _ => true
  | capture a => a.takesSome
  | seq a b => a.takesSome || b.takesSome
  | alt a b => a.takesSome && b.takesSome
  | repetition a least _ => least != 0 && a.takesSome

/-- Nothing is ever taken. -/
def takesNone : Expr → Bool
  | empty | look _ => true
  | char _ | set _ => false
  | capture a => a.takesNone
  | seq a b | alt a b => a.takesNone && b.takesNone
  | repetition a _ most => most == some 0 || a.takesNone

/-- The size of the automaton of a repetition, given that of what is repeated. -/
def repetitionBytes (inner : Nat) (takesSome takesNone : Bool) (least : Nat)
    (most : Option Nat) : Nat :=
  let (least, most) :=
    if takesNone then (min least 1, some (min (most.getD 1) 1)) else (least, most)
  let branch := stateBytes + 2 * branchBytes
  match least, most with
  | 0, none => if takesSome then branch + inner else 2 * branch + stateBytes + inner
  | least, none => least * inner + branch
  | 0, some 0 => stateBytes
  | least, some most =>
    if least == most then least * inner
    else max 1 (least * inner) + stateBytes + (most - least) * (branch + inner)

/-- The size of the automaton of an expression, given those of sets and of the
marks of a capture. -/
def bytes (setBytes : CharSet → Nat) (captureBytes : Nat) : Expr → Nat
  | empty | look _ => stateBytes
  | char c => c.utf8Size * stateBytes
  | set s => setBytes s
  | capture a => captureBytes + a.bytes setBytes captureBytes
  | seq a b => a.bytes setBytes captureBytes + b.bytes setBytes captureBytes
  | alt a b =>
    2 * stateBytes + 2 * branchBytes + a.bytes setBytes captureBytes
      + b.bytes setBytes captureBytes
  | repetition a least most =>
    repetitionBytes (a.bytes setBytes captureBytes) a.takesSome a.takesNone least most

/-- How large an automaton may be. -/
def sizeLimit : Nat := 10485760

/-- The size of what every automaton has: the search for a start, and the marks
of the whole match. -/
def frameBytes : Nat := 6 * stateBytes + 2 * arrowBytes

/-- No set takes more. -/
def largestSet : Nat := 200000

/-- The automaton that reads forwards or the one that reads backwards is too
large. Sets are looked at only where their greatest size would be too large. -/
def isTooLarge (e : Expr) : Bool :=
  let exceeds (setBytes : CharSet → Nat) (captureBytes : Nat) : Bool :=
    sizeLimit < frameBytes + e.bytes setBytes captureBytes
  exceeds (fun _ => largestSet) (2 * stateBytes)
    && (exceeds (CharSet.bytes false) (2 * stateBytes) || exceeds (CharSet.bytes true) 0)

end Expr

end Regex

end ConsoleStrip
