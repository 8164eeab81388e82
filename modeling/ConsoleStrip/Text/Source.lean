/-
Source texts and positions in them.

A position is an index into the characters of the text; a span is a pair of
positions. What the outside sees is derived from a position:

* `Source.byteOffset`: the UTF-8 offset;
* `Source.lineStarts`, `Source.lineNumber`: lines, counted from one, where a
  final line break opens no new line;
* `Source.displayColumn`: the display column on the line, in which a
  character outside the Basic Multilingual Plane counts one more than its
  width.
-/
import ConsoleStrip.Text.Blank
import ConsoleStrip.Text.Width

namespace ConsoleStrip

/-- A half-open range of positions of a text. -/
structure Span where
  lo : Nat
  hi : Nat
deriving DecidableEq, Repr, Inhabited

namespace Span

/-- The span `s` lies wholly inside the span `t`. -/
def within (s t : Span) : Bool := t.lo ≤ s.lo && s.hi ≤ t.hi

/-- The span between two positions, in whichever order they are given. -/
def between (a b : Nat) : Span := if a ≤ b then ⟨a, b⟩ else ⟨b, a⟩

end Span

/-- The number of UTF-16 units of a character. -/
def utf16Size (c : Char) : Nat := if c.toNat < 0x10000 then 1 else 2

/-- A text that is scanned. -/
structure Source where
  chars : Array Char
deriving Inhabited

namespace Source

/-- The text of a string; a leading byte order mark is no part of it. -/
def ofString (s : String) : Source :=
  match s.toList with
  | [] => ⟨#[]⟩
  | c :: rest => if c == '\uFEFF' then ⟨rest.toArray⟩ else ⟨(c :: rest).toArray⟩

/-- The number of characters. -/
def size (s : Source) : Nat := s.chars.size

/-- The characters from `lo` up to `hi`. -/
def slice (s : Source) (lo hi : Nat) : List Char :=
  (s.chars.extract lo hi).toList

/-- The text from `lo` up to `hi`. -/
def text (s : Source) (lo hi : Nat) : String :=
  String.ofList (s.slice lo hi)

/-- The character at a position. -/
def charAt? (s : Source) (pos : Nat) : Option Char := s.chars[pos]?

/-- The text has the character `c` at a position. -/
def hasAt (s : Source) (pos : Nat) (c : Char) : Bool := s.charAt? pos == some c

/-- The first position from `pos` on whose character fails `p`. -/
def skipWhile (s : Source) (p : Char → Bool) (pos : Nat) : Nat :=
  if h : pos < s.chars.size then
    if p s.chars[pos] then s.skipWhile p (pos + 1) else pos
  else pos
termination_by s.chars.size - pos

/-- Skipping characters never goes back. -/
theorem le_skipWhile (s : Source) (p : Char → Bool) (pos : Nat) : pos ≤ s.skipWhile p pos := by
  fun_induction skipWhile s p pos with
  | case1 pos h hp ih => omega
  | case2 pos h hp => exact Nat.le_refl pos
  | case3 pos h => exact Nat.le_refl pos

/-- A character stands only before the end. -/
theorem lt_size_of_hasAt {s : Source} {pos : Nat} {c : Char} (h : s.hasAt pos c = true) :
    pos < s.size := by
  simp only [hasAt, charAt?, beq_iff_eq] at h
  obtain ⟨hlt, -⟩ := Array.getElem?_eq_some_iff.mp h
  exact hlt

/-- The UTF-8 offset of a position. -/
def byteOffset (s : Source) (pos : Nat) : Nat :=
  (s.slice 0 pos).foldl (fun n c => n + c.utf8Size) 0

/-- The positions after the line breaks in `rest`, whose first character has
position `pos`. A carriage return before a line feed is no break of its own. -/
def breaksFrom (pos : Nat) : List Char → List Nat
  | [] => []
  | '\r' :: '\n' :: rest => (pos + 2) :: breaksFrom (pos + 2) rest
  | '\r' :: rest => (pos + 1) :: breaksFrom (pos + 1) rest
  | '\n' :: rest => (pos + 1) :: breaksFrom (pos + 1) rest
  | _ :: rest => breaksFrom (pos + 1) rest

/-- The positions at which lines start. A line break at the very end opens
no line. -/
def lineStarts (s : Source) : List Nat :=
  0 :: (breaksFrom 0 s.chars.toList).filter (· < s.size)

/-- The lines that start at or before a position. -/
def linesUpTo (s : Source) (pos : Nat) : List Nat :=
  s.lineStarts.takeWhile (· ≤ pos)

/-- The number of the line of a position, counted from one. -/
def lineNumber (s : Source) (pos : Nat) : Nat :=
  (s.linesUpTo pos).length

/-- Where the line of a position starts. -/
def lineStart (s : Source) (pos : Nat) : Nat :=
  (s.linesUpTo pos).getLastD 0

/-- The display column of a position, counted from zero. -/
def displayColumn (s : Source) (pos : Nat) : Nat :=
  (s.slice (s.lineStart pos) pos).foldl (fun n c => n + (utf16Size c - 1) + displayWidth c) 0

end Source

end ConsoleStrip
