/-
How similar two words are.

* `Similarity.score?`: the share of characters that two words have in common,
  nearly in order, as a fraction;
* `Similarity.candidates`: the words of a list that are similar to a word, the
  most similar last.
-/

namespace ConsoleStrip

namespace Similarity

/-- Marks a character of a list that is free and not before `first`, and before
`stop`, starting to count at `i`: the marks, and whether one was set. -/
def claim (c : Char) (first stop : Nat) : (i : Nat) → List (Char × Bool) → List (Char × Bool) × Bool
  | _, [] => ([], false)
  | i, (d, taken) :: rest =>
    if first ≤ i && i < stop && d == c && !taken then ((d, true) :: rest, true)
    else
      let (rest, found) := claim c first stop (i + 1) rest
      ((d, taken) :: rest, found)

/-- Pairs the characters of a word with those of another that are at most
`range` away: the characters of the first that have a partner, and the marks
on the second. -/
def pair (range : Nat) : (i : Nat) → List Char → List (Char × Bool) → List Char × List (Char × Bool)
  | _, [], marks => ([], marks)
  | i, c :: rest, marks =>
    let (marks, found) := claim c (i - range) (i + range + 1) 0 marks
    let (cs, marks) := pair range (i + 1) rest marks
    (if found then c :: cs else cs, marks)

/-- A fraction of two numbers, the second of which is not zero. -/
structure Score where
  num : Nat
  den : Nat
deriving Repr, DecidableEq, Inhabited

/-- One score is less than another. -/
def Score.lt (a b : Score) : Bool := a.num * b.den < b.num * a.den

/-- How similar two words are: the mean of the shares of their characters that
have a partner, and of the share of the partners that are in order. Without
partners there is no score. -/
def score? (a b : String) : Option Score :=
  let m := a.length
  let n := b.length
  let range := max m n / 2 - 1
  let (cs, marks) := pair range 0 a.toList (b.toList.map (·, false))
  let ds := (marks.filter (·.2)).map (·.1)
  let count := cs.length
  let swaps := ((cs.zip ds).countP fun (c, d) => c != d) / 2
  if count == 0 then none
  else some ⟨count * count * n + count * count * m + (count - swaps) * m * n, 3 * m * n * count⟩

/-- Two words are similar from this score on. -/
def threshold : Score := ⟨7, 10⟩

/-- Puts a word behind all that are not more similar. -/
def insert (word : String) (s : Score) : List (String × Score) → List (String × Score)
  | [] => [(word, s)]
  | (w, t) :: rest => if s.lt t then (word, s) :: (w, t) :: rest else (w, t) :: insert word s rest

/-- The words that are similar to a word, the most similar last. -/
def candidates (word : String) (words : List String) : List String :=
  (words.foldl (fun acc w =>
    match score? word w with
    | some s => if threshold.lt s then insert w s acc else acc
    | none => acc) []).map (·.1)

end Similarity

end ConsoleStrip
