/-
Comments attached to positions.

* `Attached`: every comment of a file is attached to one position, either as
  leading what starts there or as trailing what ends there;
* `Attached.comments`: the comments as they were attached;
* `Comment.listing`: comments in the order in which they start, without
  repetitions;
* `Attached.all`: the listing of the comments that were attached.
-/
import ConsoleStrip.Comment.Basic

namespace ConsoleStrip

namespace Comment

/-- Puts a comment before the first of a list that does not start before it. -/
def insertByStart (c : Comment) : List Comment → List Comment
  | [] => [c]
  | d :: rest =>
    if c.span.lo ≤ d.span.lo then c :: d :: rest else d :: insertByStart c rest

/-- Comments in the order in which they start. Those that start together stay
as they come. -/
def sortByStart (cs : List Comment) : List Comment := cs.foldr insertByStart []

/-- Comments in the order in which they start, without those that have the span
of the one before. -/
def listing (cs : List Comment) : List Comment :=
  (sortByStart cs).eraseRepsBy (·.span == ·.span)

end Comment

/-- The comments of a file, each with the position that it leads or trails.
Comments of one position stand in the order in which they were read. -/
structure Attached where
  leading : List (Nat × Comment) := []
  trailing : List (Nat × Comment) := []
deriving Repr, Inhabited

namespace Attached

/-- Adds comments that lead a position. -/
def addLeading (a : Attached) (pos : Nat) (cs : List Comment) : Attached :=
  { a with leading := a.leading ++ cs.map (pos, ·) }

/-- Adds comments that trail a position. -/
def addTrailing (a : Attached) (pos : Nat) (cs : List Comment) : Attached :=
  { a with trailing := a.trailing ++ cs.map (pos, ·) }

/-- The comments as they were attached. -/
def comments (a : Attached) : List Comment := (a.leading ++ a.trailing).map (·.2)

theorem mem_addLeading {a : Attached} {pos : Nat} {cs : List Comment} {c : Comment} :
    c ∈ (a.addLeading pos cs).comments ↔ c ∈ a.comments ∨ c ∈ cs := by
  simp [comments, addLeading, or_comm, or_left_comm]

theorem mem_addTrailing {a : Attached} {pos : Nat} {cs : List Comment} {c : Comment} :
    c ∈ (a.addTrailing pos cs).comments ↔ c ∈ a.comments ∨ c ∈ cs := by
  simp [comments, addTrailing, or_assoc]

/-- The comments that were attached, in the order in which they start, each once. -/
def all (a : Attached) : List Comment := Comment.listing a.comments

end Attached

end ConsoleStrip
