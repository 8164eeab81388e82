/-
Comments.

* `Comment`: a comment, its kind, its place and the text between its
  delimiters;
* `Comment.Apart`: comments that are not empty and do not overlap, all between
  two positions.
-/
import ConsoleStrip.Text.Source

namespace ConsoleStrip

/-- A comment to the end of its line, or one between delimiters. -/
inductive CommentKind where
  | line
  | block
deriving Repr, DecidableEq, Inhabited

/-- A comment of a source text. Its span takes in the delimiters, its text
does not. -/
structure Comment where
  kind : CommentKind
  span : Span
  text : String
deriving Repr, DecidableEq, Inhabited

/-- Comments between two positions, none of them empty and no two
overlapping. -/
structure Comment.Apart (lo hi : Nat) (cs : List Comment) : Prop where
  filled : ∀ c ∈ cs, c.span.lo < c.span.hi
  inside : ∀ c ∈ cs, lo ≤ c.span.lo ∧ c.span.hi ≤ hi
  apart : ∀ c ∈ cs, ∀ d ∈ cs, c = d ∨ c.span.hi ≤ d.span.lo ∨ d.span.hi ≤ c.span.lo

namespace Comment.Apart

theorem nil (lo hi : Nat) : Apart lo hi [] :=
  ⟨by simp, by simp, by simp⟩

/-- One comment, if it is not empty, stands apart. -/
theorem singleton {lo hi : Nat} {c : Comment} (hlo : lo ≤ c.span.lo) (hc : c.span.lo < c.span.hi)
    (hhi : c.span.hi ≤ hi) : Apart lo hi [c] where
  filled := by simpa using hc
  inside := by simpa using ⟨hlo, hhi⟩
  apart := by simp

/-- Comments that stand apart up to a position do so up to a later one. -/
theorem upTo {lo mid hi : Nat} {cs : List Comment} (h : Apart lo mid cs) (hhi : mid ≤ hi) :
    Apart lo hi cs where
  filled := h.filled
  inside c hc := ⟨(h.inside c hc).1, Nat.le_trans (h.inside c hc).2 hhi⟩
  apart := h.apart

/-- Comments up to a position and comments from it on stand apart together, in
whatever order they are listed. -/
theorem join {lo mid hi : Nat} {cs ds es : List Comment} (hcs : Apart lo mid cs)
    (hds : Apart mid hi ds) (hlo : lo ≤ mid) (hhi : mid ≤ hi) (hes : ∀ c ∈ es, c ∈ cs ∨ c ∈ ds) :
    Apart lo hi es where
  filled c hc := (hes c hc).elim (hcs.filled c) (hds.filled c)
  inside c hc := by
    rcases hes c hc with h | h
    · have := hcs.inside c h
      omega
    · have := hds.inside c h
      omega
  apart c hc d hd := by
    rcases hes c hc with h | h <;> rcases hes d hd with h' | h'
    · exact hcs.apart c h d h'
    · have := hcs.inside c h
      have := hds.inside d h'
      omega
    · have := hds.inside c h
      have := hcs.inside d h'
      omega
    · exact hds.apart c h d h'

end Comment.Apart

end ConsoleStrip
