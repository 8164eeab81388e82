/-
What stands between two tokens: blanks and comments.

* `Trivia.scan`: reads blanks and comments from a position up to the next
  token, saying of each comment whether it belongs to the token before it;
* `Trivia.Apart`: what was read stands between the position and the next token,
  and its comments do not overlap (`Trivia.scan_apart`).

A comment that starts after a line break always belongs to the token that
follows. On the line of the previous token, a comment to the end of the line
belongs to that token unless it is a binary operator; a delimited comment
belongs to it if the token is one that owns comments, or if a semicolon comes
right after.
-/
import ConsoleStrip.Comment.Basic
import ConsoleStrip.Token.Basic

namespace ConsoleStrip

/-- The blanks and comments between two tokens. -/
structure Trivia where
  /-- Where the next token starts. -/
  stop : Nat
  /-- A line break was passed. -/
  broke : Bool
  /-- The comments of the previous token, in order. -/
  own : List Comment
  /-- The comments of the next token, in order. -/
  next : List Comment
  /-- What was found wrong without stopping the scan. -/
  faults : List Fault
deriving Inhabited

namespace Trivia

/-- Where blanks from `pos` end, and whether a line break is among them. -/
def blanks (src : Source) (pos : Nat) : Nat × Bool :=
  let stop := src.skipWhile isTrivia pos
  (stop, (src.slice pos stop).any isLineEnd)

/-- The position of the `*/` that ends a comment whose body starts at `pos`. -/
def blockEnd (src : Source) (pos : Nat) : Option Nat :=
  if h : pos + 1 < src.size then
    if src.hasAt pos '*' && src.hasAt (pos + 1) '/' then some pos else blockEnd src (pos + 1)
  else none
termination_by src.size - pos

/-- Where a comment to the end of the line ends. -/
def lineEnd (src : Source) (pos : Nat) : Nat :=
  src.skipWhile (fun c => !isLineEnd c) pos

/-- Reads blanks and comments. `fuel` bounds the number of comments. -/
def scanFrom (src : Source) (before : Shape) : (fuel : Nat) → Trivia → Except Fault Trivia
  | 0, t => .ok t
  | fuel + 1, t =>
    let (pos, broke) := blanks src t.stop
    let t := { t with stop := pos, broke := t.broke || broke }
    if src.hasAt pos '/' && src.hasAt (pos + 1) '/' then
      let stop := lineEnd src (pos + 2)
      let c : Comment := ⟨.line, ⟨pos, stop⟩, src.text (pos + 2) stop⟩
      let t := { t with stop }
      scanFrom src before fuel
        (if t.broke || before.isBinaryOperator then { t with next := t.next ++ [c] }
         else { t with own := t.own ++ [c] })
    else if src.hasAt pos '/' && src.hasAt (pos + 1) '*' then
      match blockEnd src (pos + 2) with
      | none => .error ⟨⟨src.size, src.size⟩, .unterminatedComment⟩
      | some close =>
        let stop := close + 2
        let c : Comment := ⟨.block, ⟨pos, stop⟩, src.text (pos + 2) close⟩
        let broke := t.broke || (src.slice pos stop).any isLineEnd
        let semicolon := !t.broke && src.hasAt stop ';'
        let forNext := !semicolon && (t.broke || !before.ownsComment)
        let t := { t with stop, broke }
        scanFrom src before fuel
          (if forNext then { t with next := t.next ++ [c] } else { t with own := t.own ++ [c] })
    else if src.hasAt pos '<' && src.hasAt (pos + 1) '!' && src.hasAt (pos + 2) '-'
        && src.hasAt (pos + 3) '-' then
      scanFrom src before fuel
        { t with
          stop := lineEnd src (pos + 4)
          faults := t.faults ++ [⟨⟨pos, pos + 4⟩, .legacyCommentInModule⟩] }
    else if t.broke && src.hasAt pos '-' && src.hasAt (pos + 1) '-' && src.hasAt (pos + 2) '>' then
      scanFrom src before fuel
        { t with
          stop := lineEnd src (pos + 3)
          faults := t.faults ++ [⟨⟨pos, pos + 3⟩, .legacyCommentInModule⟩] }
    else .ok t

/-- Reads the blanks and comments from `pos` on, after a token of the given
shape. -/
def scan (src : Source) (before : Shape) (pos : Nat) : Except Fault Trivia :=
  scanFrom src before (src.size + 1 - pos) ⟨pos, false, [], [], []⟩

/-- Reads the blanks and comments before the first token. -/
def scanFirst (src : Source) (pos : Nat) : Except Fault Trivia :=
  scanFrom src .eof (src.size + 1 - pos) ⟨pos, true, [], [], []⟩

/-! ### Where the comments stand -/

/-- All comments between two tokens. -/
def comments (t : Trivia) : List Comment := t.own ++ t.next

/-- What stands between two tokens does so after a position, and its comments
do not overlap. -/
structure Apart (pos : Nat) (t : Trivia) : Prop where
  le_stop : pos ≤ t.stop
  comments : Comment.Apart pos t.stop t.comments

theorem le_blockEnd {src : Source} {pos close : Nat} (h : blockEnd src pos = some close) :
    pos ≤ close := by
  fun_induction blockEnd src pos with
  | case1 pos hlt hend => simp only [Option.some.injEq] at h; omega
  | case2 pos hlt hend ih => have := ih h; omega
  | case3 pos hlt => simp at h

theorem le_blanks (src : Source) (pos : Nat) : pos ≤ (blanks src pos).1 :=
  src.le_skipWhile isTrivia pos

/-- One step of the reading: it goes on, with at most one comment more, which
starts where the reading had come to, or later. -/
structure Grows (t u : Trivia) : Prop where
  le_stop : t.stop ≤ u.stop
  comments : ∃ cs, Comment.Apart t.stop u.stop cs ∧ ∀ c ∈ u.comments, c ∈ t.comments ∨ c ∈ cs

theorem Grows.skip {t u : Trivia} (hstop : t.stop ≤ u.stop) (hown : u.own = t.own)
    (hnext : u.next = t.next) : Grows t u where
  le_stop := hstop
  comments := ⟨[], .nil .., by simp [Trivia.comments, hown, hnext]⟩

theorem Grows.add {t u : Trivia} (c : Comment) (hlo : t.stop ≤ c.span.lo)
    (hc : c.span.lo < c.span.hi) (hstop : u.stop = c.span.hi)
    (hu : u.own = t.own ∧ u.next = t.next ++ [c] ∨ u.own = t.own ++ [c] ∧ u.next = t.next) :
    Grows t u where
  le_stop := by omega
  comments := by
    refine ⟨[c], .singleton hlo hc (Nat.le_of_eq hstop.symm), ?_⟩
    rcases hu with ⟨hown, hnext⟩ | ⟨hown, hnext⟩ <;> simp [Trivia.comments, hown, hnext] <;> grind

theorem Apart.grow {pos : Nat} {t u : Trivia} (ht : t.Apart pos) (h : Grows t u) : u.Apart pos where
  le_stop := Nat.le_trans ht.le_stop h.le_stop
  comments := by
    obtain ⟨cs, hcs, hmem⟩ := h.comments
    exact ht.comments.join hcs ht.le_stop h.le_stop hmem

/-- What a round of the reading does: it ends, or goes on from where it has
grown to. A text that cannot be read has not ended yet. -/
theorem scanFrom_succ (src : Source) (before : Shape) (fuel : Nat) (t : Trivia) :
    (∃ u, Grows t u ∧ scanFrom src before (fuel + 1) t = .ok u)
    ∨ (∃ fault, t.stop ≤ src.size ∧ scanFrom src before (fuel + 1) t = .error fault)
    ∨ ∃ u, Grows t u ∧ scanFrom src before (fuel + 1) t = scanFrom src before fuel u := by
  have hblanks := le_blanks src t.stop
  have hline := fun n => src.le_skipWhile (fun c => !isLineEnd c) ((blanks src t.stop).1 + n)
  simp only [scanFrom]
  split
  · -- a comment to the end of the line
    refine .inr (.inr ⟨_, ?_, rfl⟩)
    have := hline 2
    refine .add ⟨.line, ⟨(blanks src t.stop).1, lineEnd src ((blanks src t.stop).1 + 2)⟩,
      src.text ((blanks src t.stop).1 + 2) (lineEnd src ((blanks src t.stop).1 + 2))⟩
      hblanks (by dsimp only [lineEnd]; omega) ?_ ?_
    · split <;> rfl
    · split
      · exact .inl ⟨rfl, rfl⟩
      · exact .inr ⟨rfl, rfl⟩
  · split
    · next hopen =>
      split
      · -- a comment whose end is missing
        have hlt := Source.lt_size_of_hasAt (Bool.and_eq_true_iff.mp hopen).1
        exact .inr (.inl ⟨_, by omega, rfl⟩)
      · next close hclose =>
        refine .inr (.inr ⟨_, ?_, rfl⟩)
        have := le_blockEnd hclose
        refine .add ⟨.block, ⟨(blanks src t.stop).1, close + 2⟩,
          src.text ((blanks src t.stop).1 + 2) close⟩ hblanks (by dsimp only; omega) ?_ ?_
        · split <;> rfl
        · split
          · exact .inl ⟨rfl, rfl⟩
          · exact .inr ⟨rfl, rfl⟩
    · split
      · refine .inr (.inr ⟨_, ?_, rfl⟩)
        have := hline 4
        exact .skip (by dsimp only [lineEnd]; omega) rfl rfl
      · split
        · refine .inr (.inr ⟨_, ?_, rfl⟩)
          have := hline 3
          exact .skip (by dsimp only [lineEnd]; omega) rfl rfl
        · refine .inl ⟨_, ?_, rfl⟩
          exact .skip hblanks rfl rfl

theorem scanFrom_apart {src : Source} {before : Shape} {pos fuel : Nat} {t u : Trivia}
    (ht : t.Apart pos) (h : scanFrom src before fuel t = .ok u) : u.Apart pos := by
  induction fuel generalizing t with
  | zero =>
    simp only [scanFrom, Except.ok.injEq] at h
    exact h ▸ ht
  | succ fuel ih =>
    rcases scanFrom_succ src before fuel t with ⟨v, hv, he⟩ | ⟨fault, -, he⟩ | ⟨v, hv, he⟩
    · rw [he, Except.ok.injEq] at h
      exact h ▸ ht.grow hv
    · simp [he] at h
    · exact ih (ht.grow hv) (he ▸ h)

/-- A text that cannot be read has not ended where the reading starts. -/
theorem le_size_of_scanFrom {src : Source} {before : Shape} {fuel : Nat} {t : Trivia}
    {fault : Fault} (h : scanFrom src before fuel t = .error fault) : t.stop ≤ src.size := by
  induction fuel generalizing t with
  | zero => simp [scanFrom] at h
  | succ fuel ih =>
    rcases scanFrom_succ src before fuel t with ⟨v, -, he⟩ | ⟨_, hle, -⟩ | ⟨v, hv, he⟩
    · simp [he] at h
    · exact hle
    · exact Nat.le_trans hv.le_stop (ih (he ▸ h))

/-- Nothing read yet. -/
theorem apart_start (pos : Nat) (broke : Bool) : Apart pos ⟨pos, broke, [], [], []⟩ :=
  ⟨Nat.le_refl pos, .nil pos pos⟩

end Trivia

end ConsoleStrip
