/-
The line of the comments right after a position.

* `CommentIndex.SameLine`: no line terminator stands between two positions;
* `CommentIndex.InTrailing`: a character stands in a comment of the run after a
  position. `CommentIndex.blank_or_inTrailing`: between the position and a
  comment of its run each one does, or it is a blank on the line;
* `CommentIndex.trailing_sameLine_iff`: a comment of the run starts on the line
  of the position exactly if no comment before it in the run spans lines and no
  line or paragraph separator stands between these comments. Line feeds and
  carriage returns stand in comments alone;
* `CommentIndex.trailing_on_later_line`: so not every comment of a run does.
-/
import ConsoleStrip.Proofs.Comment.Interior

namespace ConsoleStrip

/-- The line terminators that count as blanks on a line. -/
lemma eq_separator_of_isInlineBlank {ch : Char} (hblank : isInlineBlank ch = true)
    (hend : isLineEnd ch = true) : ch = '\u2028' ∨ ch = '\u2029' := by
  simp only [isLineEnd, Bool.or_eq_true, beq_iff_eq] at hend
  rcases hend with ((rfl | rfl) | rfl) | rfl
  · simp [isInlineBlank] at hblank
  · simp [isInlineBlank] at hblank
  · exact .inl rfl
  · exact .inr rfl

lemma not_isInlineBlank_of_break {ch : Char} (hch : ch = '\n' ∨ ch = '\r') :
    isInlineBlank ch = false := by
  rcases hch with rfl | rfl <;> rfl

namespace CommentIndex

variable {idx : CommentIndex} {lo hi pos i : Nat} {ch : Char} {c d : Comment}

/-- No line terminator of the language stands between two positions. -/
def SameLine (idx : CommentIndex) (lo hi : Nat) : Prop :=
  idx.isGap (fun ch => !isLineEnd ch) lo hi = true

instance : Decidable (idx.SameLine lo hi) :=
  inferInstanceAs (Decidable (idx.isGap (fun ch => !isLineEnd ch) lo hi = true))

lemma sameLine_iff :
    idx.SameLine lo hi ↔ lo ≤ hi
      ∧ ∀ i ch, lo ≤ i → i < hi → idx.source.charAt? i = some ch → isLineEnd ch = false := by
  simp only [SameLine, isGap_iff, Bool.not_eq_true']

/-- No line terminator stands in what is on one line. -/
lemma SameLine.not_isLineEnd (h : idx.SameLine lo hi) (hlo : lo ≤ i) (hhi : i < hi)
    (hch : idx.source.charAt? i = some ch) : isLineEnd ch = false :=
  (sameLine_iff.mp h).2 i ch hlo hhi hch

/-- The character at `i` stands in a comment of the run after `pos`, one that
ends before the comment `c`. -/
def InTrailing (idx : CommentIndex) (pos : Nat) (c : Comment) (i : Nat) : Prop :=
  ∃ d ∈ idx.trailing pos, d.span.lo ≤ i ∧ i < d.span.hi ∧ d.span.hi ≤ c.span.lo

/-- Between a position and a comment of its run, a character is a blank that
stays on the line, or it stands in a comment of the run before that one. -/
lemma blank_or_inTrailing (h : Comment.InOrder idx.comments) (hc : c ∈ idx.trailing pos)
    (hlo : pos ≤ i) (hhi : i < c.span.lo) (hch : idx.source.charAt? i = some ch) :
    isInlineBlank ch = true ∨ idx.InTrailing pos c i := by
  obtain ⟨-, hclear⟩ := (mem_trailing h).mp hc
  rcases hclear.chars i ch hlo hhi hch with hblank | ⟨d, hd, hdpos, hdlo, hdhi, hdc⟩
  · exact .inl hblank
  · -- what is clear up to a comment is so up to each comment on the way
    have hupTo := ((clear_iff_split h hd hdpos hdc).mp hclear).1
    exact .inr ⟨d, (mem_trailing h).mpr ⟨hd, hupTo⟩, hdlo, hdhi, hdc⟩

/-- Line feeds and carriage returns before a comment of the run stand in other
comments. -/
lemma inTrailing_of_break (h : Comment.InOrder idx.comments) (hc : c ∈ idx.trailing pos)
    (hlo : pos ≤ i) (hhi : i < c.span.lo) (hch : idx.source.charAt? i = some ch)
    (hbreak : ch = '\n' ∨ ch = '\r') : idx.InTrailing pos c i := by
  rcases blank_or_inTrailing h hc hlo hhi hch with hblank | hin
  · simp [not_isInlineBlank_of_break hbreak] at hblank
  · exact hin

/-- The comments of a run before one that starts on the line do not span
lines. -/
lemma SameLine.of_mem_trailing (hline : idx.SameLine pos c.span.lo)
    (h : Comment.InOrder idx.comments) (hd : d ∈ idx.trailing pos) (hdc : d.span.hi ≤ c.span.lo) :
    idx.SameLine d.span.lo d.span.hi := by
  obtain ⟨hmem, hclear⟩ := (mem_trailing h).mp hd
  have hpos : pos ≤ d.span.lo := hclear.le
  have hfilled := h.filled d hmem
  refine sameLine_iff.mpr ⟨hfilled.le, fun i ch hlo hhi hch => ?_⟩
  exact hline.not_isLineEnd (by omega) (by omega) hch

/-- **The line of a comment right after a position.** In front of such a comment
line feeds and carriage returns stand in other comments of the run alone. So it
starts on the line of the position exactly if none of those comments spans lines
and each line separator and paragraph separator stands in one of them. -/
theorem trailing_sameLine_iff {src : Source} {a : Attached}
    (ha : Comment.Apart lo hi a.comments) (hc : c ∈ (ofAttached src a).trailing pos) :
    let idx := ofAttached src a
    (∀ i ch, pos ≤ i → i < c.span.lo → src.charAt? i = some ch → ch = '\n' ∨ ch = '\r' →
      idx.InTrailing pos c i)
    ∧ (idx.SameLine pos c.span.lo ↔
      (∀ d ∈ idx.trailing pos, d.span.hi ≤ c.span.lo → idx.SameLine d.span.lo d.span.hi)
      ∧ ∀ i ch, pos ≤ i → i < c.span.lo → src.charAt? i = some ch →
        ch = '\u2028' ∨ ch = '\u2029' → idx.InTrailing pos c i) := by
  intro idx
  have horder : Comment.InOrder idx.comments := Attached.inOrder_all ha
  refine ⟨fun i ch hlo hhi hch => inTrailing_of_break horder hc hlo hhi hch, ?_, ?_⟩
  · intro hline
    refine ⟨fun d hd hdc => hline.of_mem_trailing horder hd hdc, fun i ch hlo hhi hch hsep => ?_⟩
    -- a separator is a line terminator, and there is none
    have hno : isLineEnd ch = false := hline.not_isLineEnd hlo hhi hch
    rcases hsep with rfl | rfl <;> simp [isLineEnd] at hno
  · rintro ⟨hruns, hseparators⟩
    have hle : pos ≤ c.span.lo := ((mem_trailing horder).mp hc).2.le
    refine sameLine_iff.mpr ⟨hle, fun i ch hlo hhi hch => ?_⟩
    cases hend : isLineEnd ch with
    | false => rfl
    | true =>
        -- the terminator stands in a comment, and none of those spans lines
        have hin : idx.InTrailing pos c i := by
          rcases blank_or_inTrailing horder hc hlo hhi hch with hblank | hin
          · exact hseparators i ch hlo hhi hch (eq_separator_of_isInlineBlank hblank hend)
          · exact hin
        obtain ⟨d, hd, hdlo, hdhi, hdc⟩ := hin
        have hno := (hruns d hd hdc).not_isLineEnd hdlo hdhi hch
        rw [← hend, hno]

/-- The second of two comments on the line of a statement trails it, on that
line. -/
theorem trailing_sameLine_iff_two_comments :
    ∃ file, parseFile "a.js" "f(); /* a */ // b\ng();" .js = .ok file
      ∧ (∃ hi, Comment.Apart 0 hi file.comments.comments)
      ∧ ∃ c ∈ file.index.trailing 4, c.text = " b" ∧ file.index.SameLine 4 c.span.lo := by
  obtain ⟨file, hfile, hrun⟩ : ∃ file,
      parseFile "a.js" "f(); /* a */ // b\ng();" .js = .ok file
      ∧ (file.index.trailing 4).any (fun c => c.text == " b"
        && (file.index.trailing 4).all (fun d => !decide (d.span.hi ≤ c.span.lo)
          || decide (file.index.SameLine d.span.lo d.span.hi))
        && (List.range c.span.lo).all (fun i => !file.source.hasAt i '\u2028'
          && !file.source.hasAt i '\u2029')) = true :=
    exists_parsed (by decide +kernel)
  obtain ⟨hi, hapart⟩ := apart_of_parseFile hfile
  obtain ⟨c, hc, htest⟩ := List.any_eq_true.mp hrun
  simp only [Bool.and_eq_true, beq_iff_eq, List.all_eq_true, Bool.or_eq_true, Bool.not_eq_true',
    decide_eq_false_iff_not, decide_eq_true_eq, List.mem_range] at htest
  obtain ⟨⟨htext, hruns⟩, hseparators⟩ := htest
  refine ⟨file, hfile, ⟨hi, hapart⟩, c, hc, htext, ?_⟩
  refine (trailing_sameLine_iff hapart hc).2.mpr ⟨fun d hd hle => ?_, fun i ch _ hlt hch hsep => ?_⟩
  · rcases hruns d hd with hgt | hline
    · exact absurd hle hgt
    · exact hline
  · obtain ⟨hno, hno'⟩ := hseparators i hlt
    rcases hsep with rfl | rfl
    · simp [Source.hasAt, hch] at hno
    · simp [Source.hasAt, hch] at hno'

/-- Not every comment right after a node starts on the line on which the node
ends. -/
theorem trailing_on_later_line :
    ¬ ∀ (path code : String) (kind : FileKind) (file : ParsedFile),
      parseFile path code kind = .ok file → ∀ n ∈ file.module.preorder,
      ∀ c ∈ file.index.trailing n.hi, file.index.SameLine n.hi c.span.lo := by
  intro hall
  obtain ⟨file, hfile, hrun⟩ : ∃ file,
      parseFile "a.js"
        "foo(); /* a\n */ /* keep-console */\nbar();\u2028/* keep-console */ baz();" .js = .ok file
      ∧ file.module.preorder.any (fun n => (file.index.trailing n.hi).any fun c =>
        !decide (file.index.SameLine n.hi c.span.lo)) = true :=
    exists_parsed (by decide +kernel)
  simp only [List.any_eq_true, Bool.not_eq_true', decide_eq_false_iff_not] at hrun
  obtain ⟨n, hn, c, hc, hline⟩ := hrun
  exact hline (hall _ _ _ file hfile n hn c hc)

end CommentIndex

end ConsoleStrip
