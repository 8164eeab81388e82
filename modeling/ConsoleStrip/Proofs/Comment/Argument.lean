/-
The comments among the arguments of a call, and in functions among them.

* `CommentIndex.ArgumentsAt`: the arguments of a call in the text, each of them
  an expression or dots and an expression, in parentheses and parted by tokens;
* `CommentIndex.mem_collect_iff_inArguments`: a comment between the parentheses
  that is in no argument's expression speaks for the call unless it stands
  between the dots of an argument and the expression after them;
* `CommentIndex.BodyAt`: the body of a function in the text;
* `CommentIndex.mem_collect_iff_inBody`: a comment in the body of a function
  that is an argument speaks for the call exactly if no statement of the body
  takes it.
-/
import ConsoleStrip.Proofs.Comment.Interior

namespace ConsoleStrip

/-! ### Arguments -/

namespace Node

/-- An argument is an expression, or dots with an expression that ends where the
argument does. -/
def isArgument : Node → Bool
  | node .plain .spread s [e] =>
    e.role == .expression && s.lo < e.lo && e.lo ≤ e.hi && e.hi == s.hi
  | a => a.role == .expression && a.kind != .spread && a.lo ≤ a.hi

/-- What an argument contributes to a call is its expression, which it ends
with, and before which it has dots at most. -/
structure Argument (a : Node) : Prop where
  outerSpans : a.outerSpans = [a.argumentExpr.span]
  le : a.argumentExpr.lo ≤ a.hi
  hi : a.argumentExpr.hi = a.hi
  dots : a.kind = .spread → a.lo < a.argumentExpr.lo
  bare : a.kind ≠ .spread → a.argumentExpr = a

lemma argumentExpr_eq_self {a : Node} (h : a.kind ≠ .spread) : a.argumentExpr = a := by
  unfold argumentExpr
  split
  · simp [kind] at h
  · rfl

lemma argument_of_isArgument {a : Node} (h : a.isArgument = true) : a.Argument := by
  unfold isArgument at h
  split at h
  · next s e =>
    simp only [Bool.and_eq_true, beq_iff_eq, decide_eq_true_eq] at h
    obtain ⟨⟨⟨hrole, hlo⟩, hle⟩, hhi⟩ := h
    have hexpr : e.outerSpans = [e.span] := outerSpans_eq_singleton (by simp [hrole])
    refine ⟨?_, ?_, hhi, fun _ => hlo, fun hk => by simp [kind] at hk⟩
    · change childSpansOf [e] = [e.span]
      rw [childSpansOf_eq_flatMap, List.flatMap_singleton, hexpr]
    · change e.lo ≤ s.hi
      omega
  · simp only [Bool.and_eq_true, beq_iff_eq, bne_iff_ne, ne_eq, decide_eq_true_eq] at h
    obtain ⟨⟨hrole, hk⟩, hle⟩ := h
    have hself := argumentExpr_eq_self hk
    refine ⟨?_, by rwa [hself], by rw [hself], fun hk' => absurd hk' hk, fun _ => hself⟩
    rw [hself, outerSpans_eq_singleton (by simp [hrole])]

end Node

namespace CommentIndex

variable {idx : CommentIndex} {s : Span} {callee targs : Node} {args : List Node} {opening : Nat}
  {c : Comment}

/-- A token stands between the end of a node and the start of another. -/
def Parts (idx : CommentIndex) (a b : Node) : Prop := ∃ q < b.lo, a.hi ≤ q ∧ idx.Solid q

instance : DecidableRel idx.Parts := fun a b =>
  inferInstanceAs (Decidable (∃ q < b.lo, a.hi ≤ q ∧ idx.Solid q))

/-- The arguments of a call in the text: they stand in parentheses, of which the
first is at `opening` and the second is the end of the call. What the call
starts with ends before them, and a token stands between two of them, as it does
between dots and what comes before these. -/
structure ArgumentsAt (idx : CommentIndex) (s : Span) (callee : Node) (args : List Node)
    (targs : Node) (opening : Nat) : Prop where
  paren : idx.source.charAt? opening = some '('
  solid : idx.Solid opening
  inside : s.lo ≤ opening
  head : ∀ t ∈ callee.outerSpans ++ targs.outerSpans, t.lo ≤ opening ∧ t.hi ≤ opening
  argument : ∀ a ∈ args, a.isArgument = true
  bounds : ∀ a ∈ args, opening < a.lo ∧ a.hi < s.hi
  dots : ∀ a ∈ args, a.kind = .spread → idx.Solid a.lo
  parted : args.Pairwise idx.Parts

instance : Decidable (idx.ArgumentsAt s callee args targs opening) :=
  decidable_of_iff
    (idx.source.charAt? opening = some '(' ∧ idx.Solid opening ∧ s.lo ≤ opening
      ∧ (∀ t ∈ callee.outerSpans ++ targs.outerSpans, t.lo ≤ opening ∧ t.hi ≤ opening)
      ∧ (∀ a ∈ args, a.isArgument = true) ∧ (∀ a ∈ args, opening < a.lo ∧ a.hi < s.hi)
      ∧ (∀ a ∈ args, a.kind = .spread → idx.Solid a.lo) ∧ args.Pairwise idx.Parts)
    ⟨fun ⟨h₁, h₂, h₃, h₄, h₅, h₆, h₇, h₈⟩ => ⟨h₁, h₂, h₃, h₄, h₅, h₆, h₇, h₈⟩,
      fun h => ⟨h.paren, h.solid, h.inside, h.head, h.argument, h.bounds, h.dots, h.parted⟩⟩

/-- A comment stands between the dots of an argument and its expression, and
blanks and comments alone between it and the expression. -/
def AfterDots (idx : CommentIndex) (args : List Node) (c : Comment) : Prop :=
  ∃ a ∈ args, a.kind = .spread ∧ a.lo ≤ c.span.lo ∧ idx.Clear isBlank c.span.hi a.argumentExpr.lo

lemma mem_children_call {t : Span} :
    t ∈ (Node.expr .call s [callee, .list args, targs]).extent.children
      ↔ t ∈ callee.outerSpans ++ targs.outerSpans ∨ ∃ a ∈ args, t ∈ a.outerSpans := by
  have hargs : (Node.list args).outerSpans = Node.childSpansOf args := rfl
  simp only [Node.extent, Node.expr, Node.kids, Node.childSpansOf_eq_flatMap, List.flatMap_cons,
    List.flatMap_nil, hargs, List.mem_append, List.mem_flatMap, List.append_nil]
  constructor
  · rintro (h | h | h)
    · exact .inl (.inl h)
    · exact .inr h
    · exact .inl (.inr h)
  · rintro ((h | h) | h)
    · exact .inl h
    · exact .inr (.inr h)
    · exact .inr (.inl h)

/-- The comments that lie in a call are not before it or after it. -/
lemma mem_collect_none (h : Comment.InOrder idx.comments) (hc : c ∈ idx.comments)
    (hin : c.span.within s = true) :
    c ∈ idx.collect (.expr .call s [callee, .list args, targs]) none
      ↔ c ∈ idx.interior (Node.expr .call s [callee, .list args, targs]).extent
        ∨ ∃ a ∈ args, c ∈ idx.ofArgument a := by
  have hfilled := h.filled c hc
  obtain ⟨hlo, hhi⟩ := Span.within_iff.mp hin
  have hleading : c ∉ idx.leading s.lo := fun hmem => by
    have := ((mem_leading h).mp hmem).2.le
    omega
  have htrailing : c ∉ idx.trailing s.hi := fun hmem => by
    have := ((mem_trailing h).mp hmem).2.le
    omega
  have hown : (Node.expr .call s [callee, .list args, targs]).extent.span = s := rfl
  have harguments : (Node.expr .call s [callee, .list args, targs]).arguments = args := rfl
  simp only [collect, orOwner, hown, harguments, List.mem_append, List.mem_flatMap, hleading,
    htrailing, false_or]

/-- What a call has inside, and what its arguments have, speaks for it whatever
its owner is. -/
lemma mem_collect {call : Node} (owner : Option Extent)
    (h : c ∈ idx.interior call.extent ∨ ∃ a ∈ call.arguments, c ∈ idx.ofArgument a) :
    c ∈ idx.collect call owner := by
  rw [collect, List.mem_append, List.mem_append]
  rcases h with h | ⟨a, ha, h⟩
  · left; right
    have hfilled : (idx.interior call.extent).isEmpty = false :=
      List.isEmpty_eq_false_iff.mpr (List.ne_nil_of_mem h)
    cases owner with
    | none => exact h
    | some e => rwa [orOwner, hfilled]
  · exact .inr (List.mem_flatMap.mpr ⟨a, ha, h⟩)

/-- What a call starts with does not take a comment after its parenthesis. -/
lemma ArgumentsAt.not_takes_head (h : idx.ArgumentsAt s callee args targs opening)
    (hlo : opening < c.span.lo) (hfilled : c.span.lo < c.span.hi) {t : Span}
    (ht : t ∈ callee.outerSpans ++ targs.outerSpans) : ¬ idx.Takes t c := by
  obtain ⟨htlo, hthi⟩ := h.head t ht
  rintro (hin | hclear | hclear)
  · have := Span.within_iff.mp hin
    omega
  · have := hclear.le
    omega
  · have := hclear.not_after h.solid
    omega

/-- A comment that the expression of an argument takes without holding it stands
around the argument, or after its dots. -/
lemma ArgumentsAt.afterDots_or_mem_ofArgument (h : idx.ArgumentsAt s callee args targs opening)
    (horder : Comment.InOrder idx.comments) (hc : c ∈ idx.comments) {a : Node} (ha : a ∈ args)
    (hout : c.span.within a.argumentExpr.span = false) (htakes : idx.Takes a.argumentExpr.span c) :
    idx.AfterDots args c ∨ c ∈ idx.ofArgument a := by
  have harg := Node.argument_of_isArgument (h.argument a ha)
  simp only [ofArgument, List.mem_append, mem_leading horder, mem_trailing horder]
  rcases htakes with hin | hclear | hclear
  · simp [hout] at hin
  · by_cases hk : a.kind = .spread
    · -- the comment stands after the dots, which part it from the expression otherwise
      have hsolid := h.dots a ha hk
      have hdots : a.lo < a.argumentExpr.span.lo := harg.dots hk
      refine .inl ⟨a, ha, hk, ?_, hclear⟩
      rcases hsolid.aside hc with hlt | hle
      · exact hlt.le
      · have := hclear.not_before hsolid
        omega
    · rw [harg.bare hk] at hclear
      exact .inr (.inl (.inl ⟨hc, hclear⟩))
  · have hhi : a.argumentExpr.span.hi = a.hi := harg.hi
    rw [hhi] at hclear
    exact .inr (.inr ⟨hc, hclear⟩)

/-- A token stands between any two arguments. -/
lemma ArgumentsAt.parted_or (h : idx.ArgumentsAt s callee args targs opening) {a b : Node}
    (ha : a ∈ args) (hb : b ∈ args) :
    a = b ∨ idx.Parts a b ∨ idx.Parts b a := by
  by_cases heq : a = b
  · exact .inl heq
  · have hsymm : Std.Symm fun a b => idx.Parts a b ∨ idx.Parts b a := ⟨fun _ _ => Or.symm⟩
    have hboth : args.Pairwise fun a b => idx.Parts a b ∨ idx.Parts b a :=
      h.parted.imp fun hq => .inl hq
    exact .inr (hboth.forall ha hb heq)

/-- A comment in an argument is not around or in another one. -/
lemma ArgumentsAt.eq_of_mem_ofArgument (h : idx.ArgumentsAt s callee args targs opening)
    (horder : Comment.InOrder idx.comments) (hc : c ∈ idx.comments) {a b : Node} (ha : a ∈ args)
    (hin : c.span.within a.span = true) (hb : b ∈ args) (hmem : c ∈ idx.ofArgument b) :
    a = b := by
  have hfilled := horder.filled c hc
  have hbarg := Node.argument_of_isArgument (h.argument b hb)
  have hble := hbarg.le
  have hbhi := hbarg.hi
  have hblo : b.lo ≤ b.argumentExpr.lo := by
    by_cases hk : b.kind = .spread
    · exact (hbarg.dots hk).le
    · rw [hbarg.bare hk]
  obtain ⟨hlo, hhi⟩ : a.lo ≤ c.span.lo ∧ c.span.hi ≤ a.hi := Span.within_iff.mp hin
  simp only [ofArgument, List.mem_append, mem_leading horder, mem_trailing horder,
    mem_interior horder] at hmem
  rcases h.parted_or ha hb with heq | ⟨q, hqb, haq, hq⟩ | ⟨q, hqa, hbq, hq⟩
  · exact heq
  · rcases hmem with (⟨-, hclear⟩ | ⟨-, hinb, -⟩) | ⟨-, hclear⟩
    · have := hclear.not_before hq
      omega
    · have : b.argumentExpr.lo ≤ c.span.lo := (Span.within_iff.mp hinb).1
      omega
    · have := hclear.le
      omega
  · rcases hmem with (⟨-, hclear⟩ | ⟨-, hinb, -⟩) | ⟨-, hclear⟩
    · have := hclear.le
      omega
    · have : c.span.hi ≤ b.argumentExpr.hi := (Span.within_iff.mp hinb).2
      omega
    · have := hclear.not_after hq
      omega

/-- A comment in an argument speaks for the call if it belongs to the inside of
the call or of the argument's expression. -/
lemma ArgumentsAt.mem_collect_none_iff (h : idx.ArgumentsAt s callee args targs opening)
    (horder : Comment.InOrder idx.comments) (hc : c ∈ idx.comments) {a : Node} (ha : a ∈ args)
    (hin : c.span.within a.span = true) :
    c ∈ idx.collect (.expr .call s [callee, .list args, targs]) none
      ↔ c ∈ idx.interior (Node.expr .call s [callee, .list args, targs]).extent
        ∨ c ∈ idx.interior a.argumentExpr.extent := by
  have hfilled := horder.filled c hc
  obtain ⟨hlo, hhi⟩ : a.lo ≤ c.span.lo ∧ c.span.hi ≤ a.hi := Span.within_iff.mp hin
  have hbounds := h.bounds a ha
  have hinside := h.inside
  rw [mem_collect_none horder hc (Span.within_iff.mpr ⟨by omega, by omega⟩)]
  refine or_congr_right ⟨?_, fun hmem => ⟨a, ha, ?_⟩⟩
  · rintro ⟨b, hb, hmem⟩
    obtain rfl := h.eq_of_mem_ofArgument horder hc ha hin hb hmem
    simp only [ofArgument, List.mem_append, mem_leading horder, mem_trailing horder] at hmem
    rcases hmem with (⟨-, hclear⟩ | hmem) | ⟨-, hclear⟩
    · have := hclear.le
      omega
    · exact hmem
    · have := hclear.le
      omega
  · rw [ofArgument, List.mem_append, List.mem_append]
    exact .inl (.inr hmem)

/-- A comment between the dots of an argument and its expression speaks for
nothing: the expression takes it from the call, and it stands neither right
before the argument nor in its expression. -/
lemma ArgumentsAt.not_mem_collect_of_afterDots (h : idx.ArgumentsAt s callee args targs opening)
    (horder : Comment.InOrder idx.comments) (hc : c ∈ idx.comments)
    (hout : ∀ a ∈ args, c.span.within a.argumentExpr.span = false) (hdots : idx.AfterDots args c) :
    c ∉ idx.collect (.expr .call s [callee, .list args, targs]) none := by
  obtain ⟨a, ha, hk, hlo, hclear⟩ := hdots
  have harg := Node.argument_of_isArgument (h.argument a ha)
  have hle : c.span.hi ≤ a.hi := hclear.le.trans harg.le
  rw [h.mem_collect_none_iff horder hc ha (Span.within_iff.mpr ⟨hlo, hle⟩), not_or,
    mem_interior horder, mem_interior horder]
  constructor
  · rintro ⟨-, -, hnone⟩
    exact hnone _ (mem_children_call.mpr (.inr ⟨a, ha, by simp [harg.outerSpans]⟩))
      (.inr (.inl hclear))
  · rintro ⟨-, hin, -⟩
    have hno : c.span.within a.argumentExpr.span = true := hin
    simp [hout a ha] at hno

/-- **Comments among arguments.** A comment between the parentheses of a call
that is in the expression of no argument speaks for the call, whatever owns the
call, unless it stands between the dots of an argument and its expression, with
only blanks and comments between it and the expression. Such a one does not. -/
theorem mem_collect_iff_inArguments (horder : Comment.InOrder idx.comments)
    (h : idx.ArgumentsAt s callee args targs opening) (hc : c ∈ idx.comments)
    (hlo : opening < c.span.lo) (hhi : c.span.hi < s.hi)
    (hout : ∀ a ∈ args, c.span.within a.argumentExpr.span = false) :
    let call := Node.expr .call s [callee, .list args, targs]
    (c ∈ idx.collect call none ↔ ¬ idx.AfterDots args c)
    ∧ (¬ idx.AfterDots args c → ∀ owner, c ∈ idx.collect call owner) := by
  intro call
  have hcollect : ¬ idx.AfterDots args c → ∀ owner, c ∈ idx.collect call owner := by
    intro hdots owner
    refine mem_collect owner ?_
    -- a child of the call that takes the comment is the expression of an argument
    by_cases htaken : ∃ t ∈ call.extent.children, idx.Takes t c
    · obtain ⟨t, ht, htakes⟩ := htaken
      rcases mem_children_call.mp ht with ht | ⟨a, ha, ht⟩
      · exact absurd htakes (h.not_takes_head hlo (horder.filled c hc) ht)
      · rw [(Node.argument_of_isArgument (h.argument a ha)).outerSpans, List.mem_singleton] at ht
        subst ht
        rcases h.afterDots_or_mem_ofArgument horder hc ha (hout a ha) htakes with hd | hmem
        · exact absurd hd hdots
        · exact .inr ⟨a, ha, hmem⟩
    · have hinside := h.inside
      refine .inl ((mem_interior horder).mpr ⟨hc, ?_, fun t ht htakes => htaken ⟨t, ht, htakes⟩⟩)
      exact Span.within_iff.mpr ⟨by change s.lo ≤ _; omega, hhi.le⟩
  exact ⟨⟨fun hmem hdots => h.not_mem_collect_of_afterDots horder hc hout hdots hmem,
    fun hdots => hcollect hdots none⟩, hcollect⟩

/-- The parts of a call: its place, what is called, the arguments and the type
arguments. -/
def callParts? : Node → Option (Span × Node × List Node × Node)
  | .node .expression .call s [callee, .node .plain .list ⟨0, 0⟩ args, targs] =>
    some (s, callee, args, targs)
  | _ => none

lemma eq_call_of_callParts? {n : Node} (h : callParts? n = some (s, callee, args, targs)) :
    n = .expr .call s [callee, .list args, targs] := by
  unfold callParts? at h
  split at h
  · simp only [Option.some.injEq, Prod.mk.injEq] at h
    obtain ⟨rfl, rfl, rfl, rfl⟩ := h
    rfl
  · simp at h

/-- A tree is found to have a call with its arguments from `opening` on that
passes a test, as its arguments do with some comment between its parentheses. -/
def findsComment (idx : CommentIndex) (m : Node) (opening : Nat)
    (test : Node → List Node → Comment → Bool) : Bool :=
  m.preorder.any fun n =>
    match callParts? n with
    | some (s, callee, args, targs) =>
      decide (idx.ArgumentsAt s callee args targs opening)
        && idx.comments.any fun c =>
          opening < c.span.lo && c.span.hi < s.hi && test n args c
    | none => false

lemma exists_comment_of_findsComment {m : Node} {test : Node → List Node → Comment → Bool}
    (h : idx.findsComment m opening test = true) :
    ∃ s callee args targs, .expr .call s [callee, .list args, targs] ∈ m.preorder
      ∧ idx.ArgumentsAt s callee args targs opening
      ∧ ∃ c ∈ idx.comments, opening < c.span.lo ∧ c.span.hi < s.hi
        ∧ test (.expr .call s [callee, .list args, targs]) args c = true := by
  obtain ⟨n, hn, hfound⟩ := List.any_eq_true.mp h
  split at hfound
  · next s callee args targs hparts =>
    obtain rfl := eq_call_of_callParts? hparts
    rw [Bool.and_eq_true, decide_eq_true_eq] at hfound
    obtain ⟨hat, hcomment⟩ := hfound
    obtain ⟨c, hc, htest⟩ := List.any_eq_true.mp hcomment
    simp only [Bool.and_eq_true, decide_eq_true_eq] at htest
    exact ⟨s, callee, args, targs, hn, hat, c, hc, htest.1.1, htest.1.2, htest.2⟩
  · simp at hfound

/-- A comment before the dots of an argument that is spread is collected, with
whatever owner. -/
theorem mem_collect_iff_inArguments_spread :
    ∃ file, parseFile "a.js" "console.log(1, /* keep-console */ ...xs);" .js = .ok file
      ∧ ∃ call ∈ file.module.preorder, ∃ c ∈ file.index.comments,
        c.text = " keep-console " ∧ ∀ owner, c ∈ file.index.collect call owner := by
  obtain ⟨file, hfile, hrun⟩ : ∃ file,
      parseFile "a.js" "console.log(1, /* keep-console */ ...xs);" .js = .ok file
      ∧ file.index.findsComment file.module 11 (fun _ args c => c.text == " keep-console "
        && args.all (fun a => !c.span.within a.argumentExpr.span)
        && args.all (fun a => c.span.lo < a.lo || a.kind != .spread)) = true :=
    exists_parsed (by decide +kernel)
  obtain ⟨hi, hapart⟩ := apart_of_parseFile hfile
  obtain ⟨s, callee, args, targs, hcall, hat, c, hc, hlo, hhi, htest⟩ :=
    exists_comment_of_findsComment hrun
  simp only [Bool.and_eq_true, beq_iff_eq, List.all_eq_true, Bool.not_eq_true', Bool.or_eq_true,
    decide_eq_true_eq, bne_iff_ne] at htest
  obtain ⟨⟨htext, hout⟩, hbefore⟩ := htest
  have hdots : ¬ file.index.AfterDots args c := by
    rintro ⟨a, ha, hk, hle, -⟩
    rcases hbefore a ha with hlt | hne
    · omega
    · exact hne hk
  exact ⟨file, hfile, _, hcall, c, hc, htext,
    (mem_collect_iff_inArguments (Attached.inOrder_all hapart) hat hc hlo hhi hout).2 hdots⟩

/-- Not every comment between the parentheses of a call speaks for it. -/
theorem comment_after_dots_unread :
    ¬ ∀ (path code : String) (kind : FileKind) (file : ParsedFile),
      parseFile path code kind = .ok file → ∀ s callee args targs opening,
      .expr .call s [callee, .list args, targs] ∈ file.module.preorder →
      file.index.ArgumentsAt s callee args targs opening → ∀ c ∈ file.index.comments,
      opening < c.span.lo → c.span.hi < s.hi →
      (∀ a ∈ args, c.span.within a.argumentExpr.span = false) →
      ∀ owner, c ∈ file.index.collect (.expr .call s [callee, .list args, targs]) owner := by
  intro hall
  obtain ⟨file, hfile, hrun⟩ : ∃ file,
      parseFile "a.js" "console.log(.../* keep-console */ xs);" .js = .ok file
      ∧ file.index.findsComment file.module 11 (fun call args c =>
        args.all (fun a => !c.span.within a.argumentExpr.span)
          && !(file.index.collect call none).contains c) = true :=
    exists_parsed (by decide +kernel)
  obtain ⟨s, callee, args, targs, hcall, hat, c, hc, hlo, hhi, htest⟩ :=
    exists_comment_of_findsComment hrun
  simp only [Bool.and_eq_true, List.all_eq_true, Bool.not_eq_true'] at htest
  have hmem := hall _ _ _ file hfile s callee args targs 11 hcall hat c hc hlo hhi htest.1 none
  rw [← List.contains_iff_mem, htest.2] at hmem
  simp at hmem

end CommentIndex

/-! ### Functions among the arguments -/

namespace Node

/-- The body in braces of a function expression or of an arrow function. -/
def body? : Node → Option Node
  | node .expression .functionExpr _ [_, node .plain (.function _ _) _ [_, _, b, _, _]] =>
    if b.role == .plain && b.kind == .block then some b else none
  | node .expression (.arrow _) _ [_, b, _, _] =>
    if b.role == .plain && b.kind == .block then some b else none
  | _ => none

/-- The children of a node that fills no place are children of what contains
it. -/
lemma children_subset_of_plain {n b : Node} (hb : b ∈ n.kids) (hplain : b.role = .plain) :
    b.extent.children ⊆ n.extent.children := by
  have houter : b.outerSpans = childSpansOf b.kids := by
    cases b with
    | absent => rfl
    | node r k s ks =>
        obtain rfl : r = .plain := hplain
        rfl
  intro t ht
  change t ∈ childSpansOf n.kids
  rw [childSpansOf_eq_flatMap, List.mem_flatMap]
  exact ⟨b, hb, by rwa [houter]⟩

/-- The children of the body of a function are children of the function. -/
lemma children_subset_of_body? {f b : Node} (h : f.body? = some b) :
    b.extent.children ⊆ f.extent.children := by
  unfold body? at h
  split at h
  · next sp id isAsync isGenerator sp' ps decorators body tps ret =>
    split at h
    · next hblock =>
      rw [Bool.and_eq_true, beq_iff_eq] at hblock
      obtain rfl := Option.some.inj h
      let rest := node .plain (.function isAsync isGenerator) sp' [ps, decorators, body, tps, ret]
      have hrest : body.extent.children ⊆ rest.extent.children :=
        children_subset_of_plain (by simp [rest, kids]) hblock.1
      exact List.Subset.trans hrest (children_subset_of_plain (by simp [rest, kids]) rfl)
    · simp at h
  · split at h
    · next hblock =>
      rw [Bool.and_eq_true, beq_iff_eq] at hblock
      obtain rfl := Option.some.inj h
      exact children_subset_of_plain (by simp [kids]) hblock.1
    · simp at h
  · simp at h

lemma argumentExpr_of_body? {f b : Node} (h : f.body? = some b) : f.argumentExpr = f := by
  refine argumentExpr_eq_self fun hk => ?_
  unfold body? at h
  split at h <;> simp_all [kind]

end Node

namespace CommentIndex

variable {idx : CommentIndex} {s : Span} {callee targs : Node} {args : List Node} {opening : Nat}
  {c : Comment}

/-- The body of a function in the text: it starts with its brace, and what else
there is to the function ends before the brace. -/
structure BodyAt (idx : CommentIndex) (f b : Node) : Prop where
  brace : idx.source.charAt? b.lo = some '\x7b'
  solid : idx.Solid b.lo
  inside : b.span.within f.span = true
  header : ∀ t ∈ f.extent.children, t ∈ b.extent.children ∨ t.lo ≤ b.lo ∧ t.hi ≤ b.lo

instance {f b : Node} : Decidable (idx.BodyAt f b) :=
  decidable_of_iff
    (idx.source.charAt? b.lo = some '\x7b' ∧ idx.Solid b.lo ∧ b.span.within f.span = true
      ∧ ∀ t ∈ f.extent.children, t ∈ b.extent.children ∨ t.lo ≤ b.lo ∧ t.hi ≤ b.lo)
    ⟨fun ⟨h₁, h₂, h₃, h₄⟩ => ⟨h₁, h₂, h₃, h₄⟩,
      fun h => ⟨h.brace, h.solid, h.inside, h.header⟩⟩

/-- **Comments in a function that is an argument.** A comment between the braces
of a function that is an argument of a call speaks for the call exactly if no
statement of the body takes it: it stands in no statement, not right before one
and not right after one on its line. -/
theorem mem_collect_iff_inBody (horder : Comment.InOrder idx.comments)
    (h : idx.ArgumentsAt s callee args targs opening) {f b : Node} (hf : f ∈ args)
    (hbody : f.body? = some b) (hb : idx.BodyAt f b) (hc : c ∈ idx.comments)
    (hlo : b.lo < c.span.lo) (hhi : c.span.hi < b.hi) :
    c ∈ idx.collect (.expr .call s [callee, .list args, targs]) none
      ↔ ∀ t ∈ b.extent.children, ¬ idx.Takes t c := by
  have hfilled := horder.filled c hc
  obtain ⟨hflo, hfhi⟩ : f.lo ≤ b.lo ∧ b.hi ≤ f.hi := Span.within_iff.mp hb.inside
  have hin : c.span.within f.span = true :=
    Span.within_iff.mpr ⟨by change f.lo ≤ _; omega, by change _ ≤ f.hi; omega⟩
  have hself := Node.argumentExpr_of_body? hbody
  have hnotInside : c ∉ idx.interior (Node.expr .call s [callee, .list args, targs]).extent := by
    rw [mem_interior horder]
    rintro ⟨-, -, hnone⟩
    have hspans := (Node.argument_of_isArgument (h.argument f hf)).outerSpans
    rw [hself] at hspans
    exact hnone f.span (mem_children_call.mpr (.inr ⟨f, hf, by simp [hspans]⟩)) (.inl hin)
  rw [h.mem_collect_none_iff horder hc hf hin, hself, or_iff_right hnotInside,
    mem_interior horder]
  constructor
  · rintro ⟨-, -, hnone⟩ t ht
    exact hnone t (Node.children_subset_of_body? hbody ht)
  · refine fun hnone => ⟨hc, hin, fun t ht => ?_⟩
    rcases hb.header t ht with ht | ⟨htlo, hthi⟩
    · exact hnone t ht
    · -- the brace stands between the head of the function and the comment
      rintro (hin | hclear | hclear)
      · have := Span.within_iff.mp hin
        omega
      · have := hclear.le
        omega
      · have := hclear.not_after hb.solid
        omega

/-- A comment before a statement in the body of an argument is the statement's, and
is not collected for the call. -/
theorem mem_collect_iff_inBody_before_statement :
    ∃ file, parseFile "a.js" "console.log(() => \x7b\n  // keep-console\n  work();\n\x7d);" .js
        = .ok file
      ∧ ∃ call ∈ file.module.preorder, ∃ c ∈ file.index.comments,
        c.text = " keep-console" ∧ c ∉ file.index.collect call none := by
  obtain ⟨file, hfile, hrun⟩ : ∃ file,
      parseFile "a.js" "console.log(() => \x7b\n  // keep-console\n  work();\n\x7d);" .js = .ok file
      ∧ file.index.findsComment file.module 11 (fun _ args c => c.text == " keep-console"
        && args.any (fun f => f.body?.any fun b => decide (file.index.BodyAt f b)
          && decide (b.lo < c.span.lo) && decide (c.span.hi < b.hi)
          && b.extent.children.any fun t => (file.index.leading t.lo).contains c)) = true :=
    exists_parsed (by decide +kernel)
  obtain ⟨hi, hapart⟩ := apart_of_parseFile hfile
  have horder := Attached.inOrder_all hapart
  obtain ⟨s, callee, args, targs, hcall, hat, c, hc, -, -, htest⟩ :=
    exists_comment_of_findsComment hrun
  simp only [Bool.and_eq_true, beq_iff_eq, List.any_eq_true, Option.any_eq_true, decide_eq_true_eq,
    List.contains_iff_mem] at htest
  obtain ⟨htext, f, hf, b, hbody, ⟨⟨hb, hlo⟩, hhi⟩, t, ht, hleading⟩ := htest
  refine ⟨file, hfile, _, hcall, c, hc, htext, fun hmem => ?_⟩
  exact (mem_collect_iff_inBody horder hat hf hbody hb hc hlo hhi).mp hmem t ht
    (.inr (.inl ((mem_leading horder).mp hleading).2))

/-- A comment in a function that is an argument of a call may speak for the
call: one that stands on a line of its own after the last statement does. -/
theorem comment_after_last_statement_read :
    ¬ ∀ (path code : String) (kind : FileKind) (file : ParsedFile),
      parseFile path code kind = .ok file → ∀ s callee args targs opening,
      .expr .call s [callee, .list args, targs] ∈ file.module.preorder →
      file.index.ArgumentsAt s callee args targs opening → ∀ f ∈ args, ∀ b, f.body? = some b →
      file.index.BodyAt f b → ∀ c ∈ file.index.comments, b.lo < c.span.lo → c.span.hi < b.hi →
      c ∉ file.index.collect (.expr .call s [callee, .list args, targs]) none := by
  intro hall
  obtain ⟨file, hfile, hrun⟩ : ∃ file,
      parseFile "a.js" "console.log(() => \x7b\n  work();\n  // keep-console\n\x7d);" .js = .ok file
      ∧ file.index.findsComment file.module 11 (fun call args c =>
        (file.index.collect call none).contains c
        && args.any (fun f => f.body?.any fun b => decide (file.index.BodyAt f b)
          && decide (b.lo < c.span.lo) && decide (c.span.hi < b.hi))) = true :=
    exists_parsed (by decide +kernel)
  obtain ⟨s, callee, args, targs, hcall, hat, c, hc, -, -, htest⟩ :=
    exists_comment_of_findsComment hrun
  simp only [Bool.and_eq_true, List.any_eq_true, Option.any_eq_true, decide_eq_true_eq,
    List.contains_iff_mem] at htest
  obtain ⟨hmem, f, hf, b, hbody, ⟨hb, hlo⟩, hhi⟩ := htest
  exact hall _ _ _ file hfile s callee args targs 11 hcall hat f hf b hbody hb c hc hlo hhi hmem

end CommentIndex

end ConsoleStrip
