/-
The comments right before and right after a position.

* `CommentIndex.Clear`: only characters of one sort and whole comments stand
  between two positions. `clear_iff_split` parts what is clear at a comment in
  it;
* `CommentIndex.mem_leading`: a comment leads a position exactly if it ends
  before it and only blanks and comments stand in between;
* `CommentIndex.mem_trailing`: a comment trails a position exactly if it starts
  after it and only blanks on the line and comments stand in between;
* `CommentIndex.runs_iff`: the two together, of any comments that stand apart,
  with the order in which the comments are given.
-/
import ConsoleStrip.Proofs.Comment.Order

namespace ConsoleStrip

namespace CommentIndex

variable {idx : CommentIndex} {p : Char → Bool} {lo hi : Nat}

/-- All characters between two positions satisfy `p`, but for those of comments
that stand wholly in between. -/
structure Clear (idx : CommentIndex) (p : Char → Bool) (lo hi : Nat) : Prop where
  le : lo ≤ hi
  chars : ∀ i ch, lo ≤ i → i < hi → idx.source.charAt? i = some ch →
    p ch = true
      ∨ ∃ d ∈ idx.comments, lo ≤ d.span.lo ∧ d.span.lo ≤ i ∧ i < d.span.hi ∧ d.span.hi ≤ hi

/-- In a gap all characters satisfy `p`. -/
lemma isGap_iff :
    idx.isGap p lo hi = true
      ↔ lo ≤ hi ∧ ∀ i ch, lo ≤ i → i < hi → idx.source.charAt? i = some ch → p ch = true := by
  rw [isGap, Bool.and_eq_true, decide_eq_true_iff, List.all_eq_true]
  refine and_congr_right fun _ => ?_
  simp only [Source.slice, Array.mem_toList_iff, Array.mem_extract_iff_getElem, Source.charAt?,
    Array.getElem?_eq_some_iff]
  constructor
  · rintro h i ch hlo hhi ⟨hsize, rfl⟩
    exact h _ ⟨i - lo, by omega, by congr 1; omega⟩
  · rintro h ch ⟨k, hk, rfl⟩
    exact h (lo + k) _ (by omega) (by omega) ⟨by omega, rfl⟩

/-- Where no comment stands wholly in between, what is clear is a gap. -/
lemma clear_iff_isGap (hnone : ∀ d ∈ idx.comments, lo ≤ d.span.lo → d.span.hi ≤ hi → False) :
    idx.Clear p lo hi ↔ idx.isGap p lo hi = true := by
  rw [isGap_iff]
  constructor
  · rintro ⟨hle, hchars⟩
    refine ⟨hle, fun i ch hlo hhi hch => ?_⟩
    rcases hchars i ch hlo hhi hch with hp | ⟨d, hd, hlo', -, -, hhi'⟩
    · exact hp
    · exact (hnone d hd hlo' hhi').elim
  · rintro ⟨hle, hchars⟩
    exact ⟨hle, fun i ch hlo hhi hch => .inl (hchars i ch hlo hhi hch)⟩

/-- What is clear is so up to a comment in it and from that comment on. -/
lemma clear_iff_split (h : Comment.InOrder idx.comments) {d : Comment} (hd : d ∈ idx.comments)
    (hlo : lo ≤ d.span.lo) (hhi : d.span.hi ≤ hi) :
    idx.Clear p lo hi ↔ idx.Clear p lo d.span.lo ∧ idx.Clear p d.span.hi hi := by
  have hfilled := h.filled d hd
  constructor
  · rintro ⟨-, hchars⟩
    refine ⟨⟨hlo, fun i ch hi1 hi2 hch => ?_⟩, ⟨hhi, fun i ch hi1 hi2 hch => ?_⟩⟩
    · rcases hchars i ch hi1 (by omega) hch with hp | ⟨e, he, he1, he2, he3, he4⟩
      · exact .inl hp
      · refine .inr ⟨e, he, he1, he2, he3, ?_⟩
        rcases h.apart he hd with rfl | hle | hle <;> omega
    · rcases hchars i ch (by omega) hi2 hch with hp | ⟨e, he, he1, he2, he3, he4⟩
      · exact .inl hp
      · refine .inr ⟨e, he, ?_, he2, he3, he4⟩
        rcases h.apart he hd with rfl | hle | hle <;> omega
  · rintro ⟨⟨-, hbefore⟩, ⟨-, hafter⟩⟩
    refine ⟨by omega, fun i ch hi1 hi2 hch => ?_⟩
    -- before the comment, in it, or after it
    rcases Nat.lt_or_ge i d.span.lo with hi3 | hi3
    · rcases hbefore i ch hi1 hi3 hch with hp | ⟨e, he, he1, he2, he3, he4⟩
      · exact .inl hp
      · exact .inr ⟨e, he, he1, he2, he3, by omega⟩
    · rcases Nat.lt_or_ge i d.span.hi with hi4 | hi4
      · exact .inr ⟨d, hd, hlo, hi3, hi4, hhi⟩
      · rcases hafter i ch hi4 hi2 hch with hp | ⟨e, he, he1, he2, he3, he4⟩
        · exact .inl hp
        · exact .inr ⟨e, he, by omega, he2, he3, he4⟩

/-! ### Before a position -/

/-- The run back from a position over the comments that end before it: the
invariant is that exactly those are still ahead. -/
lemma mem_leadingRun (h : Comment.InOrder idx.comments) {c : Comment} :
    ∀ (cs : List Comment) (pos : Nat),
    cs.Pairwise (fun c d => d.span.hi ≤ c.span.lo) →
    (∀ d, d ∈ cs ↔ d ∈ idx.comments ∧ d.span.hi ≤ pos) →
    (c ∈ idx.leadingRun pos cs ↔ c ∈ cs ∧ idx.Clear isBlank c.span.hi pos) := by
  intro cs
  induction cs with
  | nil => intro pos _ _; simp [leadingRun]
  | cons d ds ih =>
      intro pos hsorted hahead
      obtain ⟨hfirst, hrest⟩ := List.pairwise_cons.mp hsorted
      obtain ⟨hd, hdpos⟩ := (hahead d).mp (by simp)
      have hfilled := h.filled d hd
      -- no comment stands between the nearest one and the position
      have hgap : idx.Clear isBlank d.span.hi pos ↔ idx.isGap isBlank d.span.hi pos = true := by
        refine clear_iff_isGap fun e he hlo hhi => ?_
        have hefilled := h.filled e he
        rcases List.mem_cons.mp ((hahead e).mpr ⟨he, hhi⟩) with rfl | hmem
        · omega
        · have := hfirst e hmem
          omega
      have hahead' : ∀ e, e ∈ ds ↔ e ∈ idx.comments ∧ e.span.hi ≤ d.span.lo := by
        intro e
        constructor
        · intro he
          exact ⟨((hahead e).mp (by simp [he])).1, hfirst e he⟩
        · rintro ⟨he, hle⟩
          rcases List.mem_cons.mp ((hahead e).mpr ⟨he, by omega⟩) with rfl | hmem
          · omega
          · exact hmem
      have ih' := ih d.span.lo hrest hahead'
      rw [leadingRun]
      split_ifs with hblank
      · rw [List.mem_append, List.mem_singleton, ih', List.mem_cons]
        constructor
        · rintro (⟨hc, hclear⟩ | rfl)
          · refine ⟨.inr hc, (clear_iff_split h hd (hfirst c hc) hdpos).mpr ?_⟩
            exact ⟨hclear, hgap.mpr hblank⟩
          · exact ⟨.inl rfl, hgap.mpr hblank⟩
        · rintro ⟨rfl | hc, hclear⟩
          · exact .inr rfl
          · exact .inl ⟨hc, ((clear_iff_split h hd (hfirst c hc) hdpos).mp hclear).1⟩
      · refine ⟨by simp, ?_⟩
        rintro ⟨hc, hclear⟩
        rcases List.mem_cons.mp hc with rfl | hc
        · exact (hblank (hgap.mp hclear)).elim
        · exact (hblank (hgap.mp ((clear_iff_split h hd (hfirst c hc) hdpos).mp hclear).2)).elim

/-- A comment leads a position exactly if it ends before it and only blanks and
comments stand in between. -/
lemma mem_leading (h : Comment.InOrder idx.comments) {c : Comment} {pos : Nat} :
    c ∈ idx.leading pos ↔ c ∈ idx.comments ∧ idx.Clear isBlank c.span.hi pos := by
  have hahead : ∀ d, d ∈ (idx.comments.takeWhile (·.span.hi ≤ pos)).reverse
      ↔ d ∈ idx.comments ∧ d.span.hi ≤ pos := by
    intro d
    rw [List.mem_reverse, h.mem_takeWhile]
  rw [leading, mem_leadingRun h _ pos _ hahead, hahead]
  · constructor
    · rintro ⟨⟨hc, -⟩, hclear⟩
      exact ⟨hc, hclear⟩
    · rintro ⟨hc, hclear⟩
      exact ⟨⟨hc, hclear.le⟩, hclear⟩
  · rw [List.pairwise_reverse]
    exact h.sorted.sublist (List.takeWhile_sublist _)

/-! ### After a position -/

/-- The run on from a position over the comments that start after it. -/
lemma mem_trailingRun (h : Comment.InOrder idx.comments) {c : Comment} :
    ∀ (cs : List Comment) (pos : Nat),
    cs.Pairwise (fun c d => c.span.hi ≤ d.span.lo) →
    (∀ d, d ∈ cs ↔ d ∈ idx.comments ∧ pos ≤ d.span.lo) →
    (c ∈ idx.trailingRun pos cs ↔ c ∈ cs ∧ idx.Clear isInlineBlank pos c.span.lo) := by
  intro cs
  induction cs with
  | nil => intro pos _ _; simp [trailingRun]
  | cons d ds ih =>
      intro pos hsorted hahead
      obtain ⟨hfirst, hrest⟩ := List.pairwise_cons.mp hsorted
      obtain ⟨hd, hdpos⟩ := (hahead d).mp (by simp)
      have hfilled := h.filled d hd
      have hgap : idx.Clear isInlineBlank pos d.span.lo
          ↔ idx.isGap isInlineBlank pos d.span.lo = true := by
        refine clear_iff_isGap fun e he hlo hhi => ?_
        have hefilled := h.filled e he
        rcases List.mem_cons.mp ((hahead e).mpr ⟨he, hlo⟩) with rfl | hmem
        · omega
        · have := hfirst e hmem
          omega
      have hahead' : ∀ e, e ∈ ds ↔ e ∈ idx.comments ∧ d.span.hi ≤ e.span.lo := by
        intro e
        constructor
        · intro he
          exact ⟨((hahead e).mp (by simp [he])).1, hfirst e he⟩
        · rintro ⟨he, hle⟩
          rcases List.mem_cons.mp ((hahead e).mpr ⟨he, by omega⟩) with rfl | hmem
          · omega
          · exact hmem
      have ih' := ih d.span.hi hrest hahead'
      rw [trailingRun]
      split_ifs with hblank
      · rw [List.mem_cons, ih', List.mem_cons]
        constructor
        · rintro (rfl | ⟨hc, hclear⟩)
          · exact ⟨.inl rfl, hgap.mpr hblank⟩
          · refine ⟨.inr hc, (clear_iff_split h hd hdpos (hfirst c hc)).mpr ?_⟩
            exact ⟨hgap.mpr hblank, hclear⟩
        · rintro ⟨rfl | hc, hclear⟩
          · exact .inl rfl
          · exact .inr ⟨hc, ((clear_iff_split h hd hdpos (hfirst c hc)).mp hclear).2⟩
      · refine ⟨by simp, ?_⟩
        rintro ⟨hc, hclear⟩
        rcases List.mem_cons.mp hc with rfl | hc
        · exact (hblank (hgap.mp hclear)).elim
        · exact (hblank (hgap.mp ((clear_iff_split h hd hdpos (hfirst c hc)).mp hclear).1)).elim

/-- A comment trails a position exactly if it starts after it and only blanks on
the line and comments stand in between. -/
lemma mem_trailing (h : Comment.InOrder idx.comments) {c : Comment} {pos : Nat} :
    c ∈ idx.trailing pos ↔ c ∈ idx.comments ∧ idx.Clear isInlineBlank pos c.span.lo := by
  have hahead : ∀ d, d ∈ idx.comments.dropWhile (·.span.lo < pos)
      ↔ d ∈ idx.comments ∧ pos ≤ d.span.lo := fun d => h.mem_dropWhile
  rw [trailing, mem_trailingRun h _ pos _ hahead, hahead]
  · constructor
    · rintro ⟨⟨hc, -⟩, hclear⟩
      exact ⟨hc, hclear⟩
    · rintro ⟨hc, hclear⟩
      exact ⟨⟨hc, hclear.le⟩, hclear⟩
  · exact h.sorted.sublist (List.dropWhile_sublist _)

/-! ### The comments around a position -/

/-- The run back from a position goes over some of the comments, the last one
first. -/
lemma leadingRun_sublist (idx : CommentIndex) (cs : List Comment) (pos : Nat) :
    (idx.leadingRun pos cs).Sublist cs.reverse := by
  induction cs generalizing pos with
  | nil => exact List.nil_sublist _
  | cons c cs ih =>
      rw [leadingRun, List.reverse_cons]
      split_ifs with hblank
      · exact (ih c.span.lo).append (List.Sublist.refl [c])
      · exact List.nil_sublist _

/-- The run on from a position goes over some of the comments. -/
lemma trailingRun_sublist (idx : CommentIndex) (cs : List Comment) (pos : Nat) :
    (idx.trailingRun pos cs).Sublist cs := by
  induction cs generalizing pos with
  | nil => exact List.nil_sublist _
  | cons c cs ih =>
      rw [trailingRun]
      split_ifs with hblank
      · exact (ih c.span.hi).cons_cons c
      · exact List.nil_sublist _

lemma leading_sublist (idx : CommentIndex) (pos : Nat) :
    (idx.leading pos).Sublist idx.comments := by
  have hrun := idx.leadingRun_sublist (idx.comments.takeWhile (·.span.hi ≤ pos)).reverse pos
  rw [List.reverse_reverse] at hrun
  exact hrun.trans (List.takeWhile_sublist _)

lemma trailing_sublist (idx : CommentIndex) (pos : Nat) :
    (idx.trailing pos).Sublist idx.comments :=
  (idx.trailingRun_sublist _ pos).trans (List.dropWhile_sublist _)

/-- **The comments right before and right after a position.** Of comments that
stand apart, those before a position are the ones that end before it with only
blanks and whole comments in between, and those after it are the ones that start
after it with only blanks on the line and whole comments in between. Both are
given in the order of the text, each comment once. -/
theorem runs_iff (src : Source) {a : Attached} (ha : Comment.Apart lo hi a.comments) (pos : Nat) :
    let idx := ofAttached src a
    (∀ c, c ∈ idx.leading pos ↔ c ∈ a.comments ∧ idx.Clear isBlank c.span.hi pos)
    ∧ (∀ c, c ∈ idx.trailing pos ↔ c ∈ a.comments ∧ idx.Clear isInlineBlank pos c.span.lo)
    ∧ (Comment.InOrder (idx.leading pos) ∧ (idx.leading pos).Nodup)
    ∧ Comment.InOrder (idx.trailing pos) ∧ (idx.trailing pos).Nodup := by
  intro idx
  have horder : Comment.InOrder idx.comments := Attached.inOrder_all ha
  have hall : ∀ c, c ∈ idx.comments ↔ c ∈ a.comments := fun c => Attached.mem_all ha
  have hleading := horder.sublist (idx.leading_sublist pos)
  have htrailing := horder.sublist (idx.trailing_sublist pos)
  refine ⟨fun c => ?_, fun c => ?_, ⟨hleading, hleading.nodup⟩, htrailing, htrailing.nodup⟩
  · rw [mem_leading horder, hall]
  · rw [mem_trailing horder, hall]

/-- The first of two comments that touch each other is in both runs: it trails the
statement before it and leads the one after it. -/
theorem runs_iff_touching :
    ∃ file, parseFile "a.js" "f();/* a *//* b */\u2003g();" .js = .ok file
      ∧ (∃ hi, Comment.Apart 0 hi file.comments.comments)
      ∧ ∃ c ∈ file.comments.comments, c.text = " a "
        ∧ file.index.Clear isBlank c.span.hi 19 ∧ file.index.Clear isInlineBlank 4 c.span.lo
        ∧ (file.index.leading 19).Nodup := by
  obtain ⟨file, hfile, hrun⟩ : ∃ file,
      parseFile "a.js" "f();/* a *//* b */\u2003g();" .js = .ok file
      ∧ (file.index.leading 19).any (fun c => c.text == " a "
        && (file.index.trailing 4).contains c) = true :=
    exists_parsed (by decide +kernel)
  obtain ⟨c, hleading, htest⟩ := List.any_eq_true.mp hrun
  rw [Bool.and_eq_true, beq_iff_eq, List.contains_iff_mem] at htest
  obtain ⟨htext, htrailing⟩ := htest
  obtain ⟨hi, hapart⟩ := apart_of_parseFile hfile
  obtain ⟨hlead, -, ⟨-, hnodup⟩, -⟩ := runs_iff file.source hapart 19
  obtain ⟨-, htrail, -⟩ := runs_iff file.source hapart 4
  have hbefore := (hlead c).mp hleading
  have hafter := (htrail c).mp htrailing
  exact ⟨file, hfile, ⟨hi, hapart⟩, c, hbefore.1, htext, hbefore.2, hafter.2, hnodup⟩

end CommentIndex

end ConsoleStrip
