/-
Comments in the order of their places.

* `Comment.InOrder`: comments that are not empty and of which each ends before
  the next starts. `InOrder.mem_takeWhile` and `InOrder.mem_dropWhile` say what
  cutting such a list at a position leaves;
* `Comment.exists_mem_listing`, `Comment.pairwise_listing`,
  `Comment.isChain_listing`: what is listed of any comments, and in which order.
  `Comment.OnePerStart.mem_listing` says that all of them are, where no two start
  together;
* `Attached.inOrder_all`, `Attached.mem_all`: comments that stand apart are put
  in order, and none is lost;
* `apart_of_parseFile`: the comments of every file that is read stand apart.
-/
import Mathlib.Data.List.Destutter
import Mathlib.Data.List.Sort
import Mathlib.Tactic
import ConsoleStrip.Transform

namespace ConsoleStrip

namespace Comment

/-- Comments in the order of their places, none of them empty and no two
overlapping. -/
structure InOrder (cs : List Comment) : Prop where
  filled : ∀ c ∈ cs, c.span.lo < c.span.hi
  sorted : cs.Pairwise fun c d => c.span.hi ≤ d.span.lo

namespace InOrder

variable {c d : Comment} {cs : List Comment}

lemma nil : InOrder [] := ⟨by simp, .nil⟩

lemma tail (h : InOrder (c :: cs)) : InOrder cs :=
  ⟨fun d hd => h.filled d (by simp [hd]), (List.pairwise_cons.mp h.sorted).2⟩

lemma sublist (h : InOrder cs) {ds : List Comment} (hds : ds.Sublist cs) : InOrder ds :=
  ⟨fun d hd => h.filled d (hds.subset hd), h.sorted.sublist hds⟩

/-- Comments in order are different from each other. -/
lemma nodup (h : InOrder cs) : cs.Nodup := by
  refine h.sorted.imp_of_mem fun {c d} hc _ hle heq => ?_
  have hfilled := h.filled c hc
  rw [heq] at hle hfilled
  omega

/-- The first comment ends before any other one starts. -/
lemma le_of_mem (h : InOrder (c :: cs)) (hd : d ∈ cs) : c.span.hi ≤ d.span.lo :=
  (List.pairwise_cons.mp h.sorted).1 d hd

/-- Of two comments one ends before the other starts. -/
lemma apart (h : InOrder cs) (hc : c ∈ cs) (hd : d ∈ cs) :
    c = d ∨ c.span.hi ≤ d.span.lo ∨ d.span.hi ≤ c.span.lo := by
  induction cs with
  | nil => simp at hc
  | cons e es ih =>
      rcases List.mem_cons.mp hc with rfl | hc' <;> rcases List.mem_cons.mp hd with rfl | hd'
      · exact .inl rfl
      · exact .inr (.inl (h.le_of_mem hd'))
      · exact .inr (.inr (h.le_of_mem hc'))
      · exact ih h.tail hc' hd'

/-- The comments up to the first that ends after a position are those that end
before it. -/
lemma mem_takeWhile (h : InOrder cs) {pos : Nat} :
    d ∈ cs.takeWhile (·.span.hi ≤ pos) ↔ d ∈ cs ∧ d.span.hi ≤ pos := by
  induction cs with
  | nil => simp
  | cons c cs ih =>
      by_cases hc : c.span.hi ≤ pos
      · rw [List.takeWhile_cons_of_pos (by simpa using hc), List.mem_cons, List.mem_cons, ih h.tail]
        constructor
        · rintro (rfl | ⟨hd, hle⟩)
          · exact ⟨.inl rfl, hc⟩
          · exact ⟨.inr hd, hle⟩
        · rintro ⟨rfl | hd, hle⟩
          · exact .inl rfl
          · exact .inr ⟨hd, hle⟩
      · rw [List.takeWhile_cons_of_neg (by simpa using hc)]
        refine ⟨by simp, ?_⟩
        rintro ⟨hd, hle⟩
        -- a later comment ends later still
        rcases List.mem_cons.mp hd with rfl | hd'
        · omega
        · have := h.le_of_mem hd'
          have := h.filled d hd
          omega

/-- The comments from the first on that starts after a position are those that
start after it. -/
lemma mem_dropWhile (h : InOrder cs) {pos : Nat} :
    d ∈ cs.dropWhile (·.span.lo < pos) ↔ d ∈ cs ∧ pos ≤ d.span.lo := by
  induction cs with
  | nil => simp
  | cons c cs ih =>
      by_cases hc : c.span.lo < pos
      · rw [List.dropWhile_cons_of_pos (by simpa using hc), ih h.tail, List.mem_cons]
        constructor
        · rintro ⟨hd, hle⟩
          exact ⟨.inr hd, hle⟩
        · rintro ⟨rfl | hd, hle⟩
          · omega
          · exact ⟨hd, hle⟩
      · rw [List.dropWhile_cons_of_neg (by simpa using hc)]
        refine ⟨fun hd => ⟨hd, ?_⟩, And.left⟩
        rcases List.mem_cons.mp hd with rfl | hd'
        · omega
        · have := h.le_of_mem hd'
          have := h.filled c (by simp)
          omega

end InOrder

end Comment

/-! ### Sorting and dropping repetitions -/

section

variable {α : Type*}

/-- The elements that stay when repetitions are dropped are those that differ
from the last one that stayed. -/
lemma eraseRepsBy_eq_destutter (r : α → α → Bool) (as : List α) :
    as.eraseRepsBy r = as.destutter fun a b => r a b = false := by
  have hloop : ∀ (as : List α) (a : α) (acc : List α), List.eraseRepsBy.loop r a as acc
      = acc.reverse ++ as.destutter' (fun a b => r a b = false) a := by
    intro as
    induction as with
    | nil => intro a acc; simp [List.eraseRepsBy.loop]
    | cons b as ih =>
        intro a acc
        rw [List.eraseRepsBy.loop, List.destutter'_cons]
        cases hr : r a b with
        | true => simp [ih]
        | false => simp [ih]
  cases as with
  | nil => rfl
  | cons a as => exact hloop as a []

variable {R : α → α → Prop} [DecidableRel R]

/-- For every element one stays that is not told apart from it. -/
lemma exists_mem_destutter (hR : ∀ a, ¬ R a a) {a : α} {as : List α} (ha : a ∈ as) :
    ∃ b ∈ as.destutter R, ¬ R b a := by
  -- `b` is the last element that stayed
  have hrun : ∀ (as : List α) (b : α), a ∈ b :: as → ∃ c ∈ as.destutter' R b, ¬ R c a := by
    intro as
    induction as with
    | nil => intro b ha; exact ⟨b, by simp, List.mem_singleton.mp ha ▸ hR a⟩
    | cons c as ih =>
        intro b ha
        rw [List.destutter'_cons]
        split_ifs with hbc
        · rcases List.mem_cons.mp ha with rfl | ha
          · exact ⟨a, by simp, hR a⟩
          · obtain ⟨d, hd, htold⟩ := ih c ha
            exact ⟨d, by simp [hd], htold⟩
        · rcases List.mem_cons.mp ha with rfl | ha
          · exact ih a (by simp)
          · rcases List.mem_cons.mp ha with rfl | ha
            · exact ⟨b, List.mem_destutter' _ _ _, hbc⟩
            · exact ih b (by simp [ha])
  cases as with
  | nil => simp at ha
  | cons b as => exact hrun as b ha

end

namespace Comment

variable {c d : Comment} {cs : List Comment}

lemma insertByStart_eq (c : Comment) (cs : List Comment) :
    insertByStart c cs = cs.orderedInsert (·.span.lo ≤ ·.span.lo) c := by
  induction cs with
  | nil => rfl
  | cons d cs ih => rw [insertByStart, List.orderedInsert_cons, ih]

lemma sortByStart_eq (cs : List Comment) :
    sortByStart cs = cs.insertionSort (·.span.lo ≤ ·.span.lo) := by
  induction cs with
  | nil => rfl
  | cons c cs ih =>
      rw [List.insertionSort_cons, ← ih, ← insertByStart_eq]
      rfl

lemma mem_sortByStart : c ∈ sortByStart cs ↔ c ∈ cs := by
  rw [sortByStart_eq, List.mem_insertionSort]

lemma listing_eq_destutter (cs : List Comment) :
    listing cs = (sortByStart cs).destutter fun c d => (c.span == d.span) = false :=
  eraseRepsBy_eq_destutter _ _

lemma mem_of_mem_listing (hc : c ∈ listing cs) : c ∈ cs := by
  rw [listing_eq_destutter] at hc
  exact mem_sortByStart.mp ((List.destutter_sublist _ _).subset hc)

/-- Of the comments of one span one is listed. -/
lemma exists_mem_listing (hc : c ∈ cs) : ∃ d ∈ listing cs, d.span = c.span := by
  rw [listing_eq_destutter]
  obtain ⟨d, hd, hspan⟩ := exists_mem_destutter (R := fun c d => (c.span == d.span) = false)
    (by simp) (mem_sortByStart.mpr hc)
  exact ⟨d, hd, by simpa using hspan⟩

/-- No listed comment starts before one that is listed before it. -/
lemma pairwise_listing (cs : List Comment) :
    (listing cs).Pairwise fun c d => c.span.lo ≤ d.span.lo := by
  have htotal : Std.Total fun c d : Comment => c.span.lo ≤ d.span.lo :=
    ⟨fun c d => Nat.le_total c.span.lo d.span.lo⟩
  have htrans : IsTrans Comment fun c d => c.span.lo ≤ d.span.lo :=
    ⟨fun _ _ _ => Nat.le_trans⟩
  rw [listing_eq_destutter, sortByStart_eq]
  exact (List.pairwise_insertionSort _ cs).sublist (List.destutter_sublist _ _)

/-- No listed comment has the span of the one before. -/
lemma isChain_listing (cs : List Comment) :
    (listing cs).IsChain fun c d => c.span ≠ d.span := by
  rw [listing_eq_destutter]
  exact (List.isChain_destutter _ _).imp fun c d h => by simpa using h

/-- Comments of which no two start at the same position. Those that are not
empty and do not overlap are such comments. -/
def OnePerStart (cs : List Comment) : Prop :=
  ∀ c ∈ cs, ∀ d ∈ cs, c.span.lo = d.span.lo → c = d

namespace OnePerStart

/-- Comments that are not empty and do not overlap start at different positions. -/
lemma of_apart {lo hi : Nat} (h : Apart lo hi cs) : OnePerStart cs := by
  intro c hc d hd hstart
  have hcfilled := h.filled c hc
  have hdfilled := h.filled d hd
  rcases h.apart c hc d hd with rfl | hle | hle
  · rfl
  · omega
  · omega

/-- No comment is lost, and none is added. -/
lemma mem_listing (h : OnePerStart cs) : c ∈ listing cs ↔ c ∈ cs := by
  refine ⟨mem_of_mem_listing, fun hc => ?_⟩
  obtain ⟨d, hd, hspan⟩ := exists_mem_listing hc
  have hdc : d = c := h d (mem_of_mem_listing hd) c hc (by rw [hspan])
  exact hdc ▸ hd

/-- Every listed comment starts after those that are listed before it. -/
lemma pairwise_lt_listing (h : OnePerStart cs) :
    (listing cs).Pairwise fun c d => c.span.lo < d.span.lo := by
  have hmem : ∀ (i : Nat) (hi : i < (listing cs).length), (listing cs)[i] ∈ cs :=
    fun i hi => mem_of_mem_listing (List.getElem_mem hi)
  -- neighbours differ in their spans, and so where they start
  have hnext : (listing cs).IsChain fun c d => c.span.lo < d.span.lo := by
    refine List.isChain_iff_getElem.mpr fun i hi => ?_
    have hle := List.pairwise_iff_getElem.mp (pairwise_listing cs) i (i + 1) (by omega) hi
      (by omega)
    have hne := List.isChain_iff_getElem.mp (isChain_listing cs) i hi
    refine Nat.lt_of_le_of_ne hle fun hstart => hne ?_
    rw [h _ (hmem i (by omega)) _ (hmem (i + 1) hi) hstart]
  have htrans : IsTrans Comment fun c d => c.span.lo < d.span.lo := ⟨fun _ _ _ => Nat.lt_trans⟩
  exact hnext.pairwise

lemma nodup_listing (h : OnePerStart cs) : (listing cs).Nodup := by
  refine h.pairwise_lt_listing.imp fun {c d} hlt heq => ?_
  rw [heq] at hlt
  omega

end OnePerStart

end Comment

namespace Attached

/-- No comment is lost, and none is added. -/
lemma mem_all {a : Attached} {lo hi : Nat} (h : Comment.Apart lo hi a.comments) {c : Comment} :
    c ∈ a.all ↔ c ∈ a.comments :=
  (Comment.OnePerStart.of_apart h).mem_listing

/-- Comments that stand apart are put in order. -/
lemma inOrder_all {a : Attached} {lo hi : Nat} (h : Comment.Apart lo hi a.comments) :
    Comment.InOrder a.all where
  filled c hc := h.filled c ((mem_all h).mp hc)
  sorted := by
    refine (Comment.OnePerStart.of_apart h).pairwise_lt_listing.imp_of_mem
      fun {c d} hc hd hlt => ?_
    have hfilled := h.filled d ((mem_all h).mp hd)
    -- what starts later cannot end before
    rcases h.apart c ((mem_all h).mp hc) d ((mem_all h).mp hd) with rfl | hle | hle
    · omega
    · exact hle
    · omega

end Attached

/-! ### Files -/

/-- The comments of a file that was read stand apart: every state of the reading
carries the proof. -/
lemma Source.apart_of_parse {src : Source} {markup : Bool} {file : ParsedFile}
    (h : src.parse markup = .ok file) :
    ∃ hi, Comment.Apart 0 hi file.comments.comments := by
  unfold parse at h
  dsimp only at h
  split at h
  · simp at h
  · next s _ =>
    split at h
    · simp at h
    · obtain rfl := Except.ok.inj h
      exact ⟨s.tok.span.lo, s.apart⟩

lemma apart_of_parseFile {path code : String} {kind : FileKind} {file : ParsedFile}
    (h : parseFile path code kind = .ok file) :
    ∃ hi, Comment.Apart 0 hi file.comments.comments := by
  unfold parseFile at h
  dsimp only at h
  split at h
  · next heq =>
    obtain rfl := Except.ok.inj h
    exact Source.apart_of_parse heq
  · simp at h

/-- A file that was read and found to satisfy `P`. -/
lemma exists_parsed {path code : String} {kind : FileKind} {P : ParsedFile → Bool}
    (h : (parseFile path code kind).toOption.any P = true) :
    ∃ file, parseFile path code kind = .ok file ∧ P file = true := by
  cases hfile : parseFile path code kind with
  | error fault => simp [hfile, Except.toOption] at h
  | ok file => exact ⟨file, rfl, by simpa [hfile, Except.toOption] using h⟩

end ConsoleStrip
