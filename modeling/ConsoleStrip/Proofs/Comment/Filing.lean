/-
Comments that are attached in different ways.

* `Comment.listing_eq`: comments of which no two start together are listed in
  one way, in whatever order and however often they come.
  `Comment.listing_unique_iff` says that only such comments are;
* `CommentIndex.ofAttached_of_same_comments`: the index, what it finds and every
  verdict depend on which comments there are, and not on where they are
  attached;
* `Options.rewrite_of_same_comments`: so does what a file is rewritten to,
  without a condition on its comments.
-/
import ConsoleStrip.Proofs.Comment.Order

namespace ConsoleStrip

namespace Comment

variable {c : Comment} {cs ds : List Comment}

/-- Comments of which no two start together are listed in one way, in whatever
order and however often they come. -/
lemma listing_eq (h : OnePerStart cs) (hsame : ∀ c, c ∈ cs ↔ c ∈ ds) :
    listing cs = listing ds := by
  have hds : OnePerStart ds := fun c hc d hd => h c ((hsame c).mpr hc) d ((hsame d).mpr hd)
  have hirrefl : Std.Irrefl fun c d : Comment => c.span.lo < d.span.lo :=
    ⟨fun c => Nat.lt_irrefl c.span.lo⟩
  have hantisymm : Std.Antisymm fun c d : Comment => c.span.lo < d.span.lo :=
    ⟨fun c d hlt hgt => (Nat.lt_asymm hlt hgt).elim⟩
  refine h.pairwise_lt_listing.eq_of_mem_iff hds.pairwise_lt_listing fun c => ?_
  rw [h.mem_listing, hds.mem_listing, hsame]

/-! ### Comments that start together -/

/-- A comment comes before those that start with it when it is put among them. -/
lemma find?_insertByStart (c : Comment) (cs : List Comment) :
    (insertByStart c cs).find? (·.span.lo == c.span.lo) = some c := by
  induction cs with
  | nil => simp [insertByStart]
  | cons d cs ih =>
      rw [insertByStart]
      split_ifs with hle
      · simp
      · rw [List.find?_cons_of_neg (by simp; omega), ih]

/-- Dropping repetitions does not change the first element with a property, if
the property does not tell repetitions apart. -/
lemma find?_destutter {α : Type*} {R : α → α → Prop} [DecidableRel R] {p : α → Bool}
    (hp : ∀ a b, ¬ R a b → p a = p b) (as : List α) : (as.destutter R).find? p = as.find? p := by
  have hrun : ∀ (as : List α) (a : α), (as.destutter' R a).find? p = (a :: as).find? p := by
    intro as
    induction as with
    | nil => intro a; rfl
    | cons b as ih =>
        intro a
        rw [List.destutter'_cons]
        split_ifs with hab
        · rw [List.find?_cons, List.find?_cons, ih b]
        · rw [ih a, List.find?_cons, List.find?_cons, List.find?_cons, ← hp a b hab]
          cases p a <;> rfl
  cases as with
  | nil => rfl
  | cons a as => exact hrun as a

/-- Of the comments that start where the first one does, the first one is
listed first. -/
lemma find?_listing_cons (c : Comment) (cs : List Comment) :
    (listing (c :: cs)).find? (·.span.lo == c.span.lo) = some c := by
  rw [listing_eq_destutter, find?_destutter]
  · exact find?_insertByStart c (sortByStart cs)
  · intro d e hspan
    have hspan : d.span = e.span := by simpa using hspan
    rw [hspan]

/-- **When the order does not matter.** Comments are listed in one way, in
whatever order and however often they come, exactly if no two of them start at
the same position. -/
theorem listing_unique_iff :
    (∀ ds, (∀ c, c ∈ cs ↔ c ∈ ds) → listing cs = listing ds) ↔ OnePerStart cs := by
  refine ⟨fun h c hc d hd hstart => ?_, fun h ds => listing_eq h⟩
  have hcd : ∀ e, e ∈ cs ↔ e ∈ c :: d :: cs := by
    intro e
    rw [List.mem_cons, List.mem_cons]
    refine ⟨fun he => .inr (.inr he), ?_⟩
    rintro (rfl | rfl | he)
    · exact hc
    · exact hd
    · exact he
  have hdc : ∀ e, e ∈ cs ↔ e ∈ d :: c :: cs := fun e =>
    (hcd e).trans (List.Perm.swap d c cs).mem_iff
  -- whichever of the two comes first is listed first
  have hfirst := find?_listing_cons c (d :: cs)
  have hsecond := find?_listing_cons d (c :: cs)
  rw [← h (c :: d :: cs) hcd] at hfirst
  rw [← h (d :: c :: cs) hdc, ← hstart] at hsecond
  exact Option.some.inj (hfirst.symm.trans hsecond)

end Comment

namespace CommentIndex

variable {a b : Attached}

/-- The index of comments does not depend on where they are attached. -/
lemma ofAttached_eq (src : Source) (h : Comment.OnePerStart a.comments)
    (hsame : ∀ c, c ∈ a.comments ↔ c ∈ b.comments) : ofAttached src a = ofAttached src b := by
  rw [ofAttached, ofAttached, Attached.all, Attached.all, Comment.listing_eq h hsame]

/-- **Comments attached in different ways.** Let the same comments be attached
in two ways: leading or trailing, at any positions, any number of times and in
any order. If no two of them start at the same position, both are listed alike,
each comment once and each starting after those before it. So the same comments
stand before, after and inside everything, the same speak for every call, and
the same is decided about every tree. -/
theorem ofAttached_of_same_comments (src : Source) (h : Comment.OnePerStart a.comments)
    (hsame : ∀ c, c ∈ a.comments ↔ c ∈ b.comments) :
    let idx := ofAttached src a
    let other := ofAttached src b
    (idx.comments = other.comments
      ∧ idx.comments.Pairwise (fun c d => c.span.lo < d.span.lo)
      ∧ ∀ c, idx.comments.count c = if c ∈ a.comments then 1 else 0)
    ∧ (∀ pos, idx.leading pos = other.leading pos ∧ idx.trailing pos = other.trailing pos)
    ∧ (∀ e, idx.interior e = other.interior e)
    ∧ (∀ call owner, idx.collect call owner = other.collect call owner)
    ∧ ∀ includes markers module, (Policy.mk includes markers idx).strip module
        = (Policy.mk includes markers other).strip module := by
  intro idx other
  have heq : idx = other := ofAttached_eq src h hsame
  have hlt : idx.comments.Pairwise fun c d => c.span.lo < d.span.lo := h.pairwise_lt_listing
  have hmem : ∀ c, c ∈ idx.comments ↔ c ∈ a.comments := fun c => h.mem_listing
  have hcount : ∀ c, idx.comments.count c = if c ∈ a.comments then 1 else 0 := by
    intro c
    split_ifs with hc
    · exact List.count_eq_one_of_mem h.nodup_listing ((hmem c).mpr hc)
    · exact List.count_eq_zero_of_not_mem fun hidx => hc ((hmem c).mp hidx)
  rw [← heq]
  exact ⟨⟨rfl, hlt, hcount⟩, fun _ => ⟨rfl, rfl⟩, fun _ => rfl, fun _ _ => rfl, fun _ _ _ => rfl⟩

/-- The same comments, filed twice over, in the wrong order, and all as trailing:
the index lists each once, in order, and the call is kept as before. -/
theorem ofAttached_of_same_comments_trailing_twice :
    ∃ file, parseFile "a.js" "// a\nf(); /* keep-console */\nconsole.log(1, /* b */);" .js = .ok file
      ∧ let cs := file.comments.comments
        let other : Attached := ⟨[], (cs ++ cs).reverse.map (0, ·)⟩
        Comment.OnePerStart cs ∧ (∀ c, c ∈ cs ↔ c ∈ other.comments)
        ∧ (ofAttached file.source other).comments.map (·.text) = [" a", " keep-console ", " b "]
        ∧ ((Policy.mk [] (.ofList []) (ofAttached file.source other)).strip file.module).2.map (·.keep)
          = [true] := by
  obtain ⟨file, hfile, hrun⟩ : ∃ file,
      parseFile "a.js" "// a\nf(); /* keep-console */\nconsole.log(1, /* b */);" .js = .ok file
      ∧ (file.index.comments.map (·.text) == [" a", " keep-console ", " b "]
        && ((Policy.mk [] (.ofList []) file.index).strip file.module).2.map (·.keep) == [true])
          = true :=
    exists_parsed (by decide +kernel)
  rw [Bool.and_eq_true, beq_iff_eq, beq_iff_eq] at hrun
  obtain ⟨htexts, hkeep⟩ := hrun
  obtain ⟨hi, hapart⟩ := apart_of_parseFile hfile
  refine ⟨file, hfile, ?_⟩
  intro cs other
  have honce : Comment.OnePerStart cs := .of_apart hapart
  have hsame : ∀ c, c ∈ cs ↔ c ∈ other.comments := by
    intro c
    simp [other, Attached.comments]
  obtain ⟨⟨hcomments, -, -⟩, -, -, -, hstrip⟩ :=
    ofAttached_of_same_comments file.source honce hsame
  refine ⟨honce, hsame, ?_, ?_⟩
  · rw [← hcomments]
    exact htexts
  · rw [← hstrip]
    exact hkeep

end CommentIndex

/-- **A file with its comments attached in another way.** What a file that was
read is rewritten to, and what was decided about its calls, does not depend on
where its comments are attached. -/
theorem Options.rewrite_of_same_comments (o : Options) {path code : String} {kind : FileKind}
    {file : ParsedFile} (hfile : parseFile path code kind = .ok file) {b : Attached}
    (hsame : ∀ c, c ∈ file.comments.comments ↔ c ∈ b.comments) :
    let r := o.rewrite path file
    let other := o.rewrite path { file with comments := b }
    r.module = other.module ∧ r.verdicts = other.verdicts := by
  intro r other
  obtain ⟨hi, hapart⟩ := apart_of_parseFile hfile
  have hindex : file.index = ParsedFile.index { file with comments := b } :=
    CommentIndex.ofAttached_eq file.source (.of_apart hapart) hsame
  have hstrip : ((o.policy file.index).strip file.module).1 = other.module
      ∧ ((o.policy file.index).strip file.module).2 = other.verdicts := by
    rw [hindex]
    exact ⟨rfl, rfl⟩
  exact hstrip

end ConsoleStrip
