/-
The comments inside a node.

* `CommentIndex.Solid`: the position of a character of a token, which is neither
  blank nor in a comment. `Clear.not_across` says that nothing is clear across
  one;
* `CommentIndex.Takes`: a comment lies in a span, or right before or right after
  it;
* `CommentIndex.mem_interior`: a comment belongs to the inside of a node exactly
  if it lies in the node and no child of the node takes it;
* `Extent.Loses`, `CommentIndex.interior_subset`: a node that loses children
  loses no comment inside.
-/
import ConsoleStrip.Proofs.Comment.Run

namespace ConsoleStrip

lemma isBlank_of_isInlineBlank {ch : Char} (h : isInlineBlank ch = true) : isBlank ch = true := by
  rw [isInlineBlank, Bool.and_eq_true, Bool.and_eq_true] at h
  exact h.1.1

lemma Span.within_iff {s t : Span} : s.within t = true ↔ t.lo ≤ s.lo ∧ s.hi ≤ t.hi := by
  simp [within]

/-- Comments in order are told by their places. -/
lemma Comment.InOrder.eq_of_span {cs : List Comment} (h : InOrder cs) {c d : Comment} (hc : c ∈ cs)
    (hd : d ∈ cs) (hspan : c.span = d.span) : c = d := by
  have hfilled := h.filled c hc
  rcases h.apart hc hd with heq | hle | hle
  · exact heq
  · rw [← hspan] at hle; omega
  · rw [← hspan] at hle; omega

/-! ### Children -/

namespace Node

/-- A list of nodes contributes the children that each of them does. -/
lemma childSpansOf_eq_flatMap (ks : List Node) : childSpansOf ks = ks.flatMap outerSpans := by
  induction ks with
  | nil => rfl
  | cons k ks ih => rw [childSpansOf, ih, List.flatMap_cons]

/-- A node that fills a place of its own is the one child that it contributes. -/
lemma outerSpans_eq_singleton {n : Node} (h : n.role ≠ .plain) : n.outerSpans = [n.span] := by
  cases n with
  | absent => simp [role] at h
  | node r k s ks =>
      have hchild : (node r k s ks).isChild = true := by
        simpa [isChild, role] using h
      rw [outerSpans, if_pos hchild]
      rfl

/-- A node that fills no place contributes the children that are in it. -/
lemma outerSpans_plain (k : Kind) (s : Span) (ks : List Node) :
    (node .plain k s ks).outerSpans = childSpansOf ks := rfl

end Node

namespace CommentIndex

variable {idx : CommentIndex} {p : Char → Bool} {lo hi q : Nat} {c : Comment} {s : Span}
  {e e' : Extent}

/-! ### Characters of tokens -/

/-- The position of a character that is neither blank nor in a comment. -/
structure Solid (idx : CommentIndex) (q : Nat) : Prop where
  char : (idx.source.charAt? q).any (fun ch => !isBlank ch) = true
  free : ∀ d ∈ idx.comments, ¬ (d.span.lo ≤ q ∧ q < d.span.hi)

instance : Decidable (idx.Solid q) :=
  decidable_of_iff _ ⟨fun h => Solid.mk h.1 h.2, fun h => And.intro h.char h.free⟩

/-- A comment lies on one side of a token. -/
lemma Solid.aside (h : idx.Solid q) (hc : c ∈ idx.comments) : q < c.span.lo ∨ c.span.hi ≤ q := by
  have := h.free c hc
  omega

/-- Blanks and comments do not go on across a token. -/
lemma Clear.not_across (h : idx.Clear p lo hi) (hp : ∀ ch, p ch = true → isBlank ch = true)
    (hq : idx.Solid q) : q < lo ∨ hi ≤ q := by
  by_contra hno
  obtain ⟨ch, hch, hsolid⟩ := (Option.any_eq_true _ _).mp hq.char
  rcases h.chars q ch (by omega) (by omega) hch with hblank | ⟨d, hd, -, hlo, hhi, -⟩
  · simp [hp ch hblank] at hsolid
  · exact hq.free d hd ⟨hlo, hhi⟩

/-- A comment right before a position has no token between it and the
position. -/
lemma Clear.not_before (h : idx.Clear isBlank lo hi) (hq : idx.Solid q) : q < lo ∨ hi ≤ q :=
  h.not_across (fun _ => id) hq

/-- A comment right after a position has no token between it and the position. -/
lemma Clear.not_after (h : idx.Clear isInlineBlank lo hi) (hq : idx.Solid q) : q < lo ∨ hi ≤ q :=
  h.not_across (fun _ => isBlank_of_isInlineBlank) hq

/-! ### What belongs to a child -/

/-- A comment lies in a span, or right before it, or right after it on the
line. -/
def Takes (idx : CommentIndex) (s : Span) (c : Comment) : Prop :=
  c.span.within s = true ∨ idx.Clear isBlank c.span.hi s.lo ∨ idx.Clear isInlineBlank s.hi c.span.lo

/-- The comments around the children of a node. -/
lemma mem_aroundChildren (h : Comment.InOrder idx.comments) :
    c ∈ idx.aroundChildren e ↔ c ∈ idx.comments
      ∧ ∃ s ∈ e.children, idx.Clear isBlank c.span.hi s.lo
        ∨ idx.Clear isInlineBlank s.hi c.span.lo := by
  simp only [aroundChildren, List.mem_flatMap, List.mem_append, mem_leading h, mem_trailing h]
  constructor
  · rintro ⟨s, hs, ⟨hc, hclear⟩ | ⟨hc, hclear⟩⟩
    · exact ⟨hc, s, hs, .inl hclear⟩
    · exact ⟨hc, s, hs, .inr hclear⟩
  · rintro ⟨hc, s, hs, hclear | hclear⟩
    · exact ⟨s, hs, .inl ⟨hc, hclear⟩⟩
    · exact ⟨s, hs, .inr ⟨hc, hclear⟩⟩

/-- The comments that lie in a node. -/
lemma mem_inside (h : Comment.InOrder idx.comments) :
    c ∈ (idx.comments.dropWhile (·.span.lo < s.lo)).takeWhile (·.span.hi ≤ s.hi)
      ↔ c ∈ idx.comments ∧ c.span.within s = true := by
  have hrest : Comment.InOrder (idx.comments.dropWhile (·.span.lo < s.lo)) :=
    ⟨fun d hd => h.filled d (h.mem_dropWhile.mp hd).1,
      h.sorted.sublist (List.dropWhile_sublist _)⟩
  rw [hrest.mem_takeWhile, h.mem_dropWhile, Span.within_iff, and_assoc]

/-- **A comment belongs to the inside of a node** exactly if it lies in the node
and no child of the node takes it. -/
lemma mem_interior (h : Comment.InOrder idx.comments) :
    c ∈ idx.interior e ↔ c ∈ idx.comments ∧ c.span.within e.span = true
      ∧ ∀ s ∈ e.children, ¬ idx.Takes s c := by
  have htaken : c ∈ idx.comments →
      (c.span ∈ (idx.aroundChildren e).map (·.span) ↔ c ∈ idx.aroundChildren e) := by
    intro hc
    refine ⟨fun hmem => ?_, List.mem_map_of_mem⟩
    obtain ⟨d, hd, hspan⟩ := List.mem_map.mp hmem
    rwa [h.eq_of_span hc ((mem_aroundChildren h).mp hd).1 hspan.symm]
  have hcontains : e.childContains c.span = true ↔ ∃ s ∈ e.children, c.span.within s = true :=
    List.any_eq_true
  simp only [interior, List.mem_filter, mem_inside h, Bool.not_eq_true', List.contains_eq_mem,
    decide_eq_false_iff_not, and_assoc]
  refine and_congr_right fun hc => and_congr_right fun _ => ?_
  rw [htaken hc, mem_aroundChildren h, ← Bool.not_eq_true, hcontains]
  simp only [Takes, hc, true_and]
  grind

/-! ### Losing children -/

end CommentIndex

/-- An extent is of the same span as another, and all its children are children
of the other. -/
structure Extent.Loses (e e' : Extent) : Prop where
  span : e'.span = e.span
  children : e'.children ⊆ e.children

namespace CommentIndex

/-- What belongs to no child of a node belongs to none if it loses children. -/
lemma interior_subset (idx : CommentIndex) {e e' : Extent} (h : e.Loses e') :
    idx.interior e ⊆ idx.interior e' := by
  intro c hc
  simp only [interior, List.mem_filter, h.span] at hc ⊢
  obtain ⟨⟨hinside, hloose⟩, htaken⟩ := hc
  refine ⟨⟨hinside, ?_⟩, ?_⟩
  · simp only [Extent.childContains, Bool.not_eq_true', List.any_eq_false] at hloose ⊢
    exact fun s hs => hloose s (h.children hs)
  · simp only [Bool.not_eq_true', List.contains_eq_mem, decide_eq_false_iff_not, List.mem_map,
      not_exists, not_and, aroundChildren, List.mem_flatMap] at htaken ⊢
    rintro d ⟨s, hs, hd⟩
    exact htaken d ⟨s, h.children hs, hd⟩

end CommentIndex

end ConsoleStrip
