/-
Printing that looks for comments at some positions alone.

A comment is printed when something looks for comments at the position that it
is attached to, and is not printed if nothing ever does.

* `Attached.only`, `Output.only`: the comments at the positions of a set, and
  what has been printed with them alone left to print;
* `Emit.Heeds`: a computation looks for comments at the positions of a set
  alone: it does the same, and leaves the same to print, without the others.
  What is printed of text, marks and lines looks for none, and computations
  one after the other look where each of them does;
* `Part.Heeds`, `Parts.Heeds`: the same of a child and of all that is below it;
* `Emit.heeds_listing`: a list looks for comments where its members start and
  end.
-/
import ConsoleStrip.Print.Tree
import Mathlib.Tactic

namespace ConsoleStrip

/-- The comments at positions that satisfy `live`. -/
def Attached.only (live : Nat → Bool) (a : Attached) : Attached :=
  ⟨a.leading.filter (live ·.1), a.trailing.filter (live ·.1)⟩

/-- What has been printed, and of what is left to print only the comments at
positions that satisfy `live`. -/
def Output.only (live : Nat → Bool) (o : Output) : Output :=
  { o with comments := o.comments.only live }

namespace Emit

variable {α β : Type} {live : Nat → Bool}

/-- A computation does the same without the comments at positions that do not
satisfy `live`, and leaves them as they are. -/
class Heeds (live : Nat → Bool) (e : Emit α) : Prop where
  run_only : ∀ o : Output, e.run (o.only live) = ((e.run o).1, (e.run o).2.only live)

/-! ### Computations in general -/

instance (a : α) : Heeds live (pure a) := ⟨fun _ => rfl⟩

lemma Heeds.bind {e : Emit α} {f : α → Emit β} (he : Heeds live e) (hf : ∀ a, Heeds live (f a)) :
    Heeds live (e >>= f) := by
  constructor
  intro o
  rw [StateT.run_bind, StateT.run_bind, he.run_only]
  exact (hf _).run_only _

/-- The comments are not what is asked of the output. -/
lemma Heeds.get_bind {f : Output → Emit α} (hf : ∀ o, Heeds live (f o))
    (hsame : ∀ o : Output, f (o.only live) = f o) : Heeds live (get >>= f) := by
  constructor
  intro o
  have hrun : ∀ o : Output, (get >>= f : Emit α).run o = (f o).run o := fun _ => rfl
  rw [hrun, hrun, hsame]
  exact (hf o).run_only o

lemma Heeds.modify {f : Output → Output} (hf : ∀ o : Output, f (o.only live) = (f o).only live) :
    Heeds live (modify f : Emit Unit) :=
  ⟨fun o => congrArg (Prod.mk ()) (hf o)⟩

lemma heeds_forIn {l : List β} {f : β → α → Emit (ForInStep α)}
    (hf : ∀ b ∈ l, ∀ a, Heeds live (f b a)) (init : α) : Heeds live (ForIn.forIn l init f) := by
  induction l generalizing init with
  | nil => rw [List.forIn_nil]; infer_instance
  | cons b bs ih =>
      rw [List.forIn_cons]
      refine .bind (hf b (by simp) init) fun r => ?_
      cases r with
      | done a => exact inferInstanceAs (Heeds live (pure a))
      | yield a => exact ih (fun c hc => hf c (by simp [hc])) a

lemma heeds_forM {l : List β} {f : β → Emit PUnit} (hf : ∀ b ∈ l, Heeds live (f b)) :
    Heeds live (l.forM f) := by
  induction l with
  | nil => exact inferInstanceAs (Heeds live (pure PUnit.unit))
  | cons b bs ih => exact .bind (hf b (by simp)) fun _ => ih fun c hc => hf c (by simp [hc])

/-! ### Text -/

instance : Heeds live startLine := .modify fun o => by
  rcases o with ⟨_, _, _, _ | _, _, _, _, _⟩ <;> rfl

instance : Heeds live newline := .modify fun o => by
  rcases o with ⟨_, _, _, _ | _, _, _, _, _⟩ <;> rfl

lemma addMapping_only (o : Output) (pos : Nat) :
    (o.only live).addMapping pos = (o.addMapping pos).only live := by
  unfold Output.addMapping
  rw [apply_ite (Output.only live)]
  rfl

instance (pos : Nat) : Heeds live (modify (·.addMapping pos) : Emit Unit) :=
  .modify fun o => addMapping_only o pos

instance (pos : Nat) : Heeds live (mark pos) := .modify fun o => by
  rw [apply_ite (Output.only live), ← addMapping_only]
  rfl

instance (text : String) : Heeds live (write text) := by
  have hput : Heeds live (modify fun o =>
      { o with pieces := text :: o.pieces, column := o.column + Output.units text } : Emit Unit) :=
    .modify fun _ => rfl
  unfold write
  split
  · infer_instance
  · refine .get_bind (fun o => .get_bind (fun o' => ?_) fun _ => rfl) fun _ => rfl
    dsimp only
    -- one step after the other, and each arm of a test
    repeat' first | with_reducible refine .bind ?_ fun _ => ?_ | infer_instance | split

instance (text : String) : Heeds live (writeLines text) := by
  have hput : ∀ n m, Heeds live (modify fun o =>
      { o with line := o.line + n, column := m } : Emit Unit) := fun _ _ => .modify fun _ => rfl
  unfold writeLines
  dsimp only
  repeat' first | with_reducible refine .bind ?_ fun _ => ?_ | infer_instance | split

instance : Heeds live space := inferInstanceAs (Heeds live (write " "))

instance (p : Punct) : Heeds live (punct p) := inferInstanceAs (Heeds live (write p.text))

instance (w : String) : Heeds live (word w) :=
  .bind (inferInstanceAs (Heeds live (write w))) fun _ => inferInstanceAs (Heeds live space)

instance (b : Bool) (w : String) : Heeds live (wordIf b w) := by
  unfold wordIf
  split <;> infer_instance

lemma heeds_indent {e : Emit α} (he : Heeds live e) : Heeds live (indent e) := by
  have hin : Heeds live (modify fun o => { o with depth := o.depth + 1 } : Emit Unit) :=
    .modify fun _ => rfl
  have hout : Heeds live (modify fun o => { o with depth := o.depth - 1 } : Emit Unit) :=
    .modify fun _ => rfl
  exact .bind hin fun _ => .bind he fun _ => .bind hout fun _ => inferInstance

/-! ### Comments -/

lemma filter_here {pos : Nat} (hpos : live pos = true) (cs : List (Nat × Comment)) :
    (cs.partition (·.1 == pos)).1.filter (live ·.1) = (cs.partition (·.1 == pos)).1 := by
  rw [List.partition_eq_filter_filter]
  refine List.filter_eq_self.mpr fun c hc => ?_
  rw [List.mem_filter, beq_iff_eq] at hc
  rw [hc.2, hpos]

/-- The comments at a position of the set are all among those at one. -/
lemma partition_filter {pos : Nat} (hpos : live pos = true) (cs : List (Nat × Comment)) :
    (cs.filter (live ·.1)).partition (·.1 == pos)
      = ((cs.partition (·.1 == pos)).1, (cs.partition (·.1 == pos)).2.filter (live ·.1)) := by
  rw [← filter_here hpos, List.partition_eq_filter_filter, List.partition_eq_filter_filter,
    List.filter_comm, List.filter_comm (not ∘ _)]

lemma any_filter {q : Nat × Comment → Bool} (hq : ∀ c, q c = true → live c.1 = true)
    (cs : List (Nat × Comment)) : (cs.filter (live ·.1)).any q = cs.any q := by
  rw [List.any_filter]
  congr 1
  funext c
  cases hc : q c with
  | false => exact Bool.and_false _
  | true => rw [hq c hc, Bool.and_true]

instance (spaceBefore : Bool) (c : Comment) : Heeds live (comment spaceBefore c) := by
  unfold comment
  dsimp only
  repeat' first | with_reducible refine .bind ?_ fun _ => ?_ | infer_instance | split

lemma heeds_comments (cs : List (Nat × Comment)) (spaceBefore : Bool) :
    Heeds live (do for c in cs do comment spaceBefore c.2) :=
  .bind (heeds_forIn (fun _ _ _ => .bind inferInstance fun _ => inferInstance) _)
    fun _ => inferInstance

instance {pos : Nat} [hpos : Fact (live pos = true)] : Heeds live (leadingComments pos) := by
  constructor
  intro o
  have hrun : ∀ o : Output, (leadingComments pos).run o
      = (do for c in (o.comments.leading.partition (·.1 == pos)).1 do comment false c.2
        : Emit Unit).run
        { o with comments := { o.comments with
          leading := (o.comments.leading.partition (·.1 == pos)).2 } } := fun _ => rfl
  rw [hrun, hrun, ← (heeds_comments _ false).run_only]
  simp only [Output.only, Attached.only, partition_filter hpos.out]

instance {pos : Nat} [hpos : Fact (live pos = true)] (spaceBefore : Bool) :
    Heeds live (trailingComments pos spaceBefore) := by
  constructor
  intro o
  have hrun : ∀ o : Output, (trailingComments pos spaceBefore).run o
      = (do for c in (o.comments.trailing.partition (·.1 == pos)).1 do comment spaceBefore c.2
        : Emit Unit).run
        { o with comments := { o.comments with
          trailing := (o.comments.trailing.partition (·.1 == pos)).2 } } := fun _ => rfl
  rw [hrun, hrun, ← (heeds_comments _ spaceBefore).run_only]
  simp only [Output.only, Attached.only, partition_filter hpos.out]

instance {pos : Nat} [hpos : Fact (live pos = true)] {e : Emit Unit} [he : Heeds live e] :
    Heeds live (withhold pos e) := by
  constructor
  intro o
  -- what is put back at the end is at a position of the set
  have hback : Heeds live (modify fun o' : Output => { o' with comments := { o'.comments with
      trailing := (o.comments.trailing.partition (·.1 == pos)).1 ++ o'.comments.trailing } }
      : Emit Unit) := by
    refine .modify fun o' => ?_
    simp only [Output.only, Attached.only, List.filter_append, filter_here hpos.out]
  have hrun : ∀ o : Output, (withhold pos e).run o
      = (e >>= fun _ => modify fun o' : Output => { o' with comments := { o'.comments with
          trailing := (o.comments.trailing.partition (·.1 == pos)).1 ++ o'.comments.trailing } }
          : Emit Unit).run
        { o with comments := { o.comments with
          trailing := (o.comments.trailing.partition (·.1 == pos)).2 } } := fun _ => rfl
  rw [hrun, hrun, ← (Heeds.bind he fun _ => hback).run_only]
  simp only [Output.only, Attached.only, partition_filter hpos.out]

instance {pos : Nat} [hpos : Fact (live pos = true)] : Heeds live (hasLeading pos) := by
  refine .get_bind (fun o => inferInstance) fun o => congrArg pure (any_filter (fun c hc => ?_) _)
  rw [beq_iff_eq] at hc
  rw [hc, hpos.out]

instance {pos : Nat} [hpos : Fact (live pos = true)] : Heeds live (hasLeadingBreak pos) := by
  refine .get_bind (fun o => inferInstance) fun o => congrArg pure (any_filter (fun c hc => ?_) _)
  rw [Bool.and_eq_true, beq_iff_eq] at hc
  rw [hc.1, hpos.out]

instance {s : Span} [Fact (live s.lo = true)] : Heeds live (start s) :=
  .bind inferInstance fun _ => inferInstance

end Emit

/-! ### Parts -/

/-- A part looks for comments at positions that satisfy `live` alone, and so does
each part of it; it starts and ends at such positions. -/
inductive Part.Heeds (live : Nat → Bool) : Part → Prop
  | intro {p : Part} (lo : live p.node.lo = true) (hi : live p.node.hi = true)
      (emit : ∀ m, Emit.Heeds live (p.emit m)) (parts : ∀ q ∈ p.parts, q.Heeds live) :
      Part.Heeds live p

namespace Part.Heeds

variable {live : Nat → Bool} {p : Part}

lemma lo (h : p.Heeds live) : live p.node.lo = true := by cases h; assumption

lemma hi (h : p.Heeds live) : live p.node.hi = true := by cases h; assumption

lemma emit (h : p.Heeds live) (m : Manner) : Emit.Heeds live (p.emit m) := by
  cases h with | intro _ _ hemit _ => exact hemit m

lemma parts (h : p.Heeds live) : ∀ q ∈ p.parts, q.Heeds live := by cases h; assumption

end Part.Heeds

/-- All parts look for comments at positions that satisfy `live` alone. A part
that is missing is at the start of the text. -/
class Parts.Heeds (live : Nat → Bool) (ps : Parts) : Prop where
  zero : live 0 = true
  of_mem : ∀ p ∈ ps, p.Heeds live

namespace Parts

variable {live : Nat → Bool} {ps : Parts} [h : ps.Heeds live]

lemma heeds_part (i : Nat) : (ps.part i).Heeds live := by
  rw [part, List.getD_eq_getElem?_getD]
  cases hi : ps[i]? with
  | none =>
      exact .intro h.zero h.zero (fun _ => inferInstanceAs (Emit.Heeds live (pure ()))) (by simp)
  | some p => exact h.of_mem p (List.mem_of_getElem? hi)

instance (i : Nat) (m : Manner) : Emit.Heeds live (ps.emitAs i m) := (heeds_part i).emit m

instance (i : Nat) : Emit.Heeds live (ps.emit i) := (heeds_part i).emit .whole

instance (i : Nat) : (ps.inner i).Heeds live := ⟨h.zero, (heeds_part i).parts⟩

instance (i : Nat) : Fact (live (ps.node i).lo = true) := ⟨(heeds_part i).lo⟩

end Parts

namespace Emit

variable {live : Nat → Bool} {s : Span} {ps : Parts}

/-! ### Lists -/

/-- A member of a list looks for comments at positions that satisfy `live` alone,
and starts and ends at such positions. -/
structure MemberHeeds (live : Nat → Bool) (m : Member) : Prop where
  lo : live m.span.lo = true
  hi : live m.span.hi = true
  emit : Heeds live m.emit

lemma heeds_commentsAfter (style : ListStyle) (parent : Span) {m : Span} (hm : live m.hi = true) :
    Heeds live (commentsAfter style parent m) := by
  have : Fact (live m.hi = true) := ⟨hm⟩
  unfold commentsAfter
  split <;> infer_instance

lemma heeds_membersAfter (style : ListStyle) (parent : Span) {ms : List Member}
    (hms : ∀ m ∈ ms, MemberHeeds live m) : ∀ {previous : Span}, live previous.hi = true →
    Heeds live (membersAfter style parent previous ms) := by
  induction ms with
  | nil =>
      intro previous hprevious
      have hafter := heeds_commentsAfter style parent hprevious
      unfold membersAfter
      repeat' first | with_reducible refine .bind ?_ fun _ => ?_ | infer_instance | split
  | cons m rest ih =>
      intro previous hprevious
      have hm := hms m (by simp)
      have hafter := heeds_commentsAfter style parent hprevious
      have hemit := hm.emit
      have hlo : Fact (live m.span.lo = true) := ⟨hm.lo⟩
      have hrest := ih (fun c hc => hms c (by simp [hc])) hm.hi
      unfold membersAfter separator
      repeat' first | with_reducible refine .bind ?_ fun _ => ?_ | infer_instance | split

lemma heeds_listing (style : ListStyle) (parent : Span) {ms : List Member}
    (hms : ∀ m ∈ ms, MemberHeeds live m) : Heeds live (listing style parent ms) := by
  cases ms with
  | nil =>
      dsimp only [listing]
      repeat' first | infer_instance | split
  | cons m rest =>
      have hm := hms m (by simp)
      have hemit := hm.emit
      have hlo : Fact (live m.span.lo = true) := ⟨hm.lo⟩
      have hrest := heeds_membersAfter style parent
        (fun c (hc : c ∈ rest) => hms c (by simp [hc])) hm.hi
      dsimp only [listing]
      repeat' first
        | with_reducible refine .bind ?_ fun _ => ?_
        | with_reducible refine heeds_indent ?_ | infer_instance | split

section Layout

variable [h : ps.Heeds live]

instance (style : ListStyle) (parent : Span) : Heeds live (listing style parent ps.members) := by
  refine heeds_listing style parent fun m hm => ?_
  obtain ⟨p, hp, rfl⟩ := List.mem_map.mp hm
  exact ⟨(h.of_mem p hp).lo, (h.of_mem p hp).hi, (h.of_mem p hp).emit .whole⟩

instance (i : Nat) (style : ListStyle) (parent : Span) : Heeds live (ps.listed i style parent) :=
  inferInstanceAs (Heeds live (listing style parent (ps.inner i).members))

instance (i : Nat) : Heeds live (typeAfterColon ps i) := by
  unfold typeAfterColon
  repeat' first | with_reducible refine .bind ?_ fun _ => ?_ | infer_instance | split

end Layout

end Emit

end ConsoleStrip
