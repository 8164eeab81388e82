/-
Comments before a token, and what the language skips between tokens.

* `Trivia.Filled`: from a position up to the next token there are only
  characters that the scanner skips, and comments. `Trivia.filled_scanFrom`:
  each round of the reading keeps this;
* `Source.Follows`: a token follows a position, with some comments in between.
  `Parser.follows_advanced`: parsers pass from a token to the one that follows;
* `CommentIndex.mem_leading_iff_of_follows`: a comment between a token and the
  next one leads the next one exactly if each U+FEFF after it stands in another
  comment. All else that separates tokens is blank;
* `CommentIndex.comment_before_mark_unread`: so not every comment between two
  tokens leads the second one.
-/
import ConsoleStrip.Proofs.Comment.Run

namespace ConsoleStrip

/-- The one character that the scanner skips and that is not blank. -/
lemma eq_mark_of_isTrivia {ch : Char} (htrivia : isTrivia ch = true) (hblank : isBlank ch = false) :
    ch = '\uFEFF' := by
  simpa [isTrivia, hblank] using htrivia

lemma isBlank_mark : isBlank '\uFEFF' = false := rfl

/-- All characters that are skipped satisfy the test. -/
lemma Source.of_lt_skipWhile {src : Source} {p : Char → Bool} {pos i : Nat} {ch : Char}
    (hlo : pos ≤ i) (hhi : i < src.skipWhile p pos) (hch : src.charAt? i = some ch) :
    p ch = true := by
  fun_induction skipWhile src p pos with
  | case1 pos hsize hp ih =>
      by_cases heq : i = pos
      · subst heq
        rw [charAt?, Array.getElem?_eq_getElem hsize, Option.some.injEq] at hch
        exact hch ▸ hp
      · exact ih (by omega) hhi
  | case2 pos hsize hp => omega
  | case3 pos hsize => omega

namespace Trivia

variable {src : Source} {before : Shape} {pos fuel : Nat} {t u : Trivia}

/-- From a position up to where the reading has come there are only characters
that are skipped, and comments that were read. -/
def Filled (src : Source) (pos : Nat) (t : Trivia) : Prop :=
  ∀ i ch, pos ≤ i → i < t.stop → src.charAt? i = some ch →
    isTrivia ch = true ∨ ∃ d ∈ t.comments, d.span.lo ≤ i ∧ i < d.span.hi

lemma filled_start (broke : Bool) : Filled src pos ⟨pos, broke, [], [], []⟩ :=
  fun _ _ hlo hhi _ => absurd (hlo.trans_lt hhi) (Nat.lt_irrefl pos)

/-- One step of the reading: blanks, and then nothing but what a comment holds
that was read. -/
lemma Filled.step (ht : t.Filled src pos) (hsub : ∀ d ∈ t.comments, d ∈ u.comments)
    (hnew : ∀ i, (blanks src t.stop).1 ≤ i → i < u.stop →
      ∃ d ∈ u.comments, d.span.lo ≤ i ∧ i < d.span.hi) :
    u.Filled src pos := by
  intro i ch hlo hhi hch
  rcases Nat.lt_or_ge i t.stop with hold | hold
  · rcases ht i ch hlo hold hch with htrivia | ⟨d, hd, hin⟩
    · exact .inl htrivia
    · exact .inr ⟨d, hsub d hd, hin⟩
  · rcases Nat.lt_or_ge i (blanks src t.stop).1 with hblank | hblank
    · exact .inl (Source.of_lt_skipWhile hold hblank hch)
    · exact .inr (hnew i hblank hhi)

/-- One step of the reading that adds a comment, which starts after blanks and
ends where the step does. -/
lemma Filled.add (ht : t.Filled src pos) (c : Comment) (hlo : c.span.lo = (blanks src t.stop).1)
    (hhi : c.span.hi = u.stop) (hu : ∀ d, d ∈ u.comments ↔ d ∈ t.comments ∨ d = c) :
    u.Filled src pos := by
  refine ht.step (fun d hd => (hu d).mpr (.inl hd)) fun i hi1 hi2 => ?_
  exact ⟨c, (hu c).mpr (.inr rfl), by omega, by omega⟩

/-- What is read without a fault is filled with blanks and comments: a reading
that goes over something else notes a fault. -/
lemma filled_scanFrom (h : scanFrom src before fuel t = .ok u) (hu : u.faults = []) :
    t.faults = [] ∧ (t.Filled src pos → u.Filled src pos) := by
  induction fuel generalizing t with
  | zero =>
      obtain rfl : t = u := by simpa [scanFrom] using h
      exact ⟨hu, id⟩
  | succ fuel ih =>
      simp only [scanFrom] at h
      split at h
      · -- a comment to the end of the line
        obtain ⟨hfaults, hfilled⟩ := ih h
        refine ⟨by split at hfaults <;> exact hfaults, fun ht => hfilled ?_⟩
        refine ht.add ⟨.line, ⟨(blanks src t.stop).1, lineEnd src ((blanks src t.stop).1 + 2)⟩,
          src.text ((blanks src t.stop).1 + 2) (lineEnd src ((blanks src t.stop).1 + 2))⟩ rfl ?_ ?_
        · split <;> rfl
        · intro d
          split <;> simp only [comments, List.mem_append, List.mem_singleton] <;> tauto
      · split at h
        · split at h
          · simp at h
          · next close _ =>
            obtain ⟨hfaults, hfilled⟩ := ih h
            refine ⟨by split at hfaults <;> exact hfaults, fun ht => hfilled ?_⟩
            refine ht.add ⟨.block, ⟨(blanks src t.stop).1, close + 2⟩,
              src.text ((blanks src t.stop).1 + 2) close⟩ rfl ?_ ?_
            · split <;> rfl
            · intro d
              split <;> simp only [comments, List.mem_append, List.mem_singleton] <;> tauto
        · split at h
          · -- a comment of the old kind is a fault
            obtain ⟨hfaults, -⟩ := ih h
            simp at hfaults
          · split at h
            · obtain ⟨hfaults, -⟩ := ih h
              simp at hfaults
            · obtain rfl := Except.ok.inj h
              refine ⟨hu, fun ht => ht.step (fun d hd => hd) fun i hi1 hi2 => ?_⟩
              exact absurd (hi1.trans_lt hi2) (Nat.lt_irrefl _)

end Trivia

/-- A token starts at `pos`, after the position `after`, where another one ends
or the text starts. In between are blanks and the comments `cs`, and no
fault. -/
def Source.Follows (src : Source) (after pos : Nat) (cs : List Comment) : Prop :=
  ∃ t : Trivia, ((∃ before, Trivia.scan src before after = .ok t)
      ∨ Trivia.scanFirst src after = .ok t)
    ∧ t.faults = [] ∧ t.stop = pos ∧ t.comments = cs

/-- Between two tokens there is nothing but what the scanner skips, and
comments, which stand apart. -/
lemma Source.Follows.filled {src : Source} {after pos : Nat} {cs : List Comment}
    (h : src.Follows after pos cs) :
    Comment.Apart after pos cs ∧ after ≤ pos
      ∧ ∀ i ch, after ≤ i → i < pos → src.charAt? i = some ch →
        isTrivia ch = true ∨ ∃ d ∈ cs, d.span.lo ≤ i ∧ i < d.span.hi := by
  obtain ⟨t, hscan, hfaults, rfl, rfl⟩ := h
  obtain ⟨before, fuel, broke, hscan⟩ : ∃ before fuel broke,
      Trivia.scanFrom src before fuel ⟨after, broke, [], [], []⟩ = .ok t := by
    rcases hscan with ⟨before, hscan⟩ | hscan
    · exact ⟨before, _, false, hscan⟩
    · exact ⟨.eof, _, true, hscan⟩
  have hapart := Trivia.scanFrom_apart (Trivia.apart_start after broke) hscan
  have hfilled := (Trivia.filled_scanFrom hscan hfaults).2 (Trivia.filled_start broke)
  exact ⟨hapart.comments, hapart.le_stop, hfilled⟩

/-- A parser passes from a token to the one that follows it, and attaches the
comments in between. -/
lemma Parser.follows_advanced {src : Source} (scan : Scanner) {s : State} {t : Trivia}
    (h : Trivia.scan src s.tok.shape s.tok.span.hi = .ok t) (hfaults : t.faults = []) :
    src.Follows s.tok.span.hi (advanced src scan s).tok.span.lo t.comments
      ∧ ∀ d ∈ t.comments, d ∈ (advanced src scan s).comments.comments := by
  have hstep : following src scan s.tok.shape s.tok.span.hi = tokenAfter src scan (.ok t) := by
    rw [following, h]
  have htok : (advanced src scan s).tok = (tokenAfter src scan (.ok t)).next := by
    rw [← hstep, advanced, keepFaults]
    split <;> rfl
  have hcomments : (advanced src scan s).comments = attachTrivia s.comments s.tok.span.hi
      (tokenAfter src scan (.ok t)).next (tokenAfter src scan (.ok t)).trivia := by
    rw [← hstep, advanced, keepFaults]
    split <;> rfl
  refine ⟨⟨t, .inl ⟨s.tok.shape, h⟩, hfaults, by rw [htok]; rfl, rfl⟩, fun d hd => ?_⟩
  rw [hcomments]
  exact mem_attachTrivia.mpr (.inr hd)

namespace CommentIndex

variable {idx : CommentIndex} {lo hi after pos : Nat} {c : Comment} {cs : List Comment}

/-- Where only comments and what the scanner skips stand, only comments and
blanks do exactly if each U+FEFF stands in a comment. -/
lemma clear_isBlank_iff (h : idx.Clear isTrivia lo hi) :
    idx.Clear isBlank lo hi
      ↔ ∀ i, lo ≤ i → i < hi → idx.source.charAt? i = some '\uFEFF' →
        ∃ d ∈ idx.comments, lo ≤ d.span.lo ∧ d.span.lo ≤ i ∧ i < d.span.hi ∧ d.span.hi ≤ hi := by
  constructor
  · intro hblank i hlo hhi hmark
    rcases hblank.chars i '\uFEFF' hlo hhi hmark with hno | hin
    · simp [isBlank_mark] at hno
    · exact hin
  · refine fun hmarks => ⟨h.le, fun i ch hlo hhi hch => ?_⟩
    rcases h.chars i ch hlo hhi hch with htrivia | hin
    · cases hblank : isBlank ch with
      | true => exact .inl rfl
      | false =>
          obtain rfl := eq_mark_of_isTrivia htrivia hblank
          exact .inr (hmarks i hlo hhi hch)
    · exact .inr hin

/-- An index that has the comments between two tokens sees nothing else there
but what the scanner skips. -/
lemma clear_of_follows (h : idx.source.Follows after pos cs)
    (hcs : ∀ d ∈ cs, d ∈ idx.comments) : idx.Clear isTrivia after pos := by
  obtain ⟨hapart, hle, hfilled⟩ := h.filled
  refine ⟨hle, fun i ch hlo hhi hch => ?_⟩
  rcases hfilled i ch hlo hhi hch with htrivia | ⟨d, hd, hdlo, hdhi⟩
  · exact .inl htrivia
  · obtain ⟨hdafter, hdpos⟩ := hapart.inside d hd
    exact .inr ⟨d, hcs d hd, hdafter, hdlo, hdhi, hdpos⟩

/-- **Comments between two tokens.** Of the comments between the end of a token,
or the start of the text, and the start of the next token, one leads the next
token exactly if each U+FEFF that stands after it, before the next token, is in
another comment. Whatever else separates tokens is blank. -/
theorem mem_leading_iff_of_follows {src : Source} {a : Attached}
    (ha : Comment.Apart lo hi a.comments) (h : src.Follows after pos cs)
    (hcs : ∀ d ∈ cs, d ∈ a.comments) (hc : c ∈ a.comments) (hafter : after ≤ c.span.lo)
    (hpos : c.span.hi ≤ pos) :
    c ∈ (ofAttached src a).leading pos
      ↔ ∀ i, c.span.hi ≤ i → i < pos → src.charAt? i = some '\uFEFF' →
        ∃ d ∈ a.comments,
          c.span.hi ≤ d.span.lo ∧ d.span.lo ≤ i ∧ i < d.span.hi ∧ d.span.hi ≤ pos := by
  let idx := ofAttached src a
  have horder : Comment.InOrder idx.comments := Attached.inOrder_all ha
  have hall : ∀ d, d ∈ idx.comments ↔ d ∈ a.comments := fun d => Attached.mem_all ha
  have hclear : idx.Clear isTrivia after pos :=
    clear_of_follows h fun d hd => (hall d).mpr (hcs d hd)
  -- what is clear between the tokens is so from the comment on
  have hrest := ((clear_iff_split horder ((hall c).mpr hc) hafter hpos).mp hclear).2
  have hleading : c ∈ idx.leading pos ↔ idx.Clear isBlank c.span.hi pos := by
    rw [mem_leading horder, hall]
    exact and_iff_right hc
  rw [hleading, clear_isBlank_iff hrest]
  simp only [hall]
  rfl

/-- A reading that was found to satisfy `P`. -/
lemma exists_follows {src : Source} {P : Trivia → Bool} (before : Shape) (pos : Nat)
    (h : (Trivia.scan src before after).toOption.any P = true
      ∨ (Trivia.scanFirst src after).toOption.any P = true)
    (hP : ∀ t, P t = true → t.faults.isEmpty = true ∧ t.stop = pos) :
    ∃ t, P t = true ∧ src.Follows after pos t.comments := by
  have hfollows : ∀ t : Trivia, P t = true →
      (∃ before, Trivia.scan src before after = .ok t) ∨ Trivia.scanFirst src after = .ok t →
      src.Follows after pos t.comments :=
    fun t ht hscan => ⟨t, hscan, List.isEmpty_iff.mp (hP t ht).1, (hP t ht).2, rfl⟩
  rcases h with h | h
  · cases hscan : Trivia.scan src before after with
    | error fault => simp [hscan, Except.toOption] at h
    | ok t =>
        have ht : P t = true := by simpa [hscan, Except.toOption] using h
        exact ⟨t, ht, hfollows t ht (.inl ⟨before, hscan⟩)⟩
  · cases hscan : Trivia.scanFirst src after with
    | error fault => simp [hscan, Except.toOption] at h
    | ok t =>
        have ht : P t = true := by simpa [hscan, Except.toOption] using h
        exact ⟨t, ht, hfollows t ht (.inr hscan)⟩

/-- A comment leads the next statement over blanks of several kinds, two line
breaks and another comment. -/
theorem mem_leading_iff_of_follows_blanks :
    ∃ file, parseFile "a.js" "f();\u00A0/* a */\u2028\t// b\n\u3000g();" .js = .ok file
      ∧ ∃ cs, file.source.Follows 4 20 cs ∧ (∀ d ∈ cs, d ∈ file.comments.comments)
        ∧ ∃ c ∈ cs, c.text = " a " ∧ c ∈ file.index.leading 20 := by
  let found : ParsedFile → Trivia → Bool := fun file t =>
    t.faults.isEmpty && t.stop == 20 && t.comments.all file.comments.comments.contains
      && t.comments.any (fun c => c.text == " a " && decide (4 ≤ c.span.lo ∧ c.span.hi ≤ 20))
      && (List.range 20).all fun i => !file.source.hasAt i '\uFEFF'
  obtain ⟨file, hfile, hrun⟩ : ∃ file,
      parseFile "a.js" "f();\u00A0/* a */\u2028\t// b\n\u3000g();" .js = .ok file
      ∧ (Trivia.scan file.source (.punct .semi) 4).toOption.any (found file) = true :=
    exists_parsed (by decide +kernel)
  obtain ⟨t, htest, hfollows⟩ := exists_follows (.punct .semi) 20 (.inl hrun)
    fun t ht => by simp only [found, Bool.and_eq_true, beq_iff_eq] at ht; exact ht.1.1.1
  simp only [found, Bool.and_eq_true, List.all_eq_true, List.any_eq_true, List.contains_iff_mem,
    beq_iff_eq, decide_eq_true_eq, Bool.not_eq_true', List.mem_range] at htest
  obtain ⟨⟨⟨-, hcs⟩, c, hc, htext, hlo, hhi⟩, hmarks⟩ := htest
  obtain ⟨hi, hapart⟩ := apart_of_parseFile hfile
  refine ⟨file, hfile, t.comments, hfollows, hcs, c, hc, htext, ?_⟩
  refine (mem_leading_iff_of_follows hapart hfollows hcs (hcs c hc) hlo hhi).mpr ?_
  intro i _ hlt hmark
  have hno := hmarks i hlt
  simp [Source.hasAt, hmark] at hno

/-- Not every comment between two tokens leads the second one: a U+FEFF cuts the
run short. -/
theorem comment_before_mark_unread :
    ¬ ∀ (path code : String) (kind : FileKind) (file : ParsedFile),
      parseFile path code kind = .ok file → ∀ after pos cs, file.source.Follows after pos cs →
      (∀ d ∈ cs, d ∈ file.comments.comments) → (∃ n ∈ file.module.preorder, n.lo = pos) →
      ∀ c ∈ cs, c ∈ file.index.leading pos := by
  intro hall
  let found : ParsedFile → Trivia → Bool := fun file t =>
    t.faults.isEmpty && t.stop == 19 && t.comments.all file.comments.comments.contains
      && t.comments.any fun c => !(file.index.leading 19).contains c
  obtain ⟨file, hfile, hrun⟩ : ∃ file,
      parseFile "a.js" "/* keep-console */\uFEFFfoo();" .js = .ok file
      ∧ ((Trivia.scanFirst file.source 0).toOption.any (found file)
        && file.module.preorder.any fun n => n.kind == .exprStmt && n.lo == 19) = true :=
    exists_parsed (by decide +kernel)
  rw [Bool.and_eq_true] at hrun
  obtain ⟨hscan, hnode⟩ := hrun
  obtain ⟨t, htest, hfollows⟩ := exists_follows .eof 19 (.inr hscan)
    fun t ht => by simp only [found, Bool.and_eq_true, beq_iff_eq] at ht; exact ht.1.1
  obtain ⟨n, hn, hstart⟩ := List.any_eq_true.mp hnode
  simp only [Bool.and_eq_true, beq_iff_eq] at hstart
  simp only [found, Bool.and_eq_true, List.all_eq_true, List.any_eq_true, List.contains_iff_mem,
    Bool.not_eq_true'] at htest
  obtain ⟨⟨-, hcs⟩, c, hc, hno⟩ := htest
  have hmem := hall _ _ _ file hfile 0 19 t.comments hfollows hcs ⟨n, hn, hstart.2⟩ c hc
  rw [← List.contains_iff_mem, hno] at hmem
  simp at hmem

end CommentIndex

end ConsoleStrip
