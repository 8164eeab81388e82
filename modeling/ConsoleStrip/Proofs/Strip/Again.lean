/-
Stripping what has been stripped.

* `Node.CallsShaped`: all calls in a tree have the shape of calls, as those of
  every tree that is read do (`ParsedFile.shaped`);
* `Policy.LeftOf`: what editing leaves of a node that stays;
* `Policy.exists_origin`: every call to decide about in an edited tree is what is
  left of one in the given tree that is reached and kept, and so is each node
  around it;
* `CommentIndex.collect_subset`: what spoke for a call speaks for what is left of
  it. The call has the children that it had, so it falls back on its owner where
  it did; its owner and its arguments can lose children, and with them no comment;
* `Policy.strip_again`: stripping a tree that was stripped changes nothing and
  keeps the calls that were kept.
-/
import ConsoleStrip.Proofs.Comment.Interior
import ConsoleStrip.Proofs.Strip.Spared

namespace ConsoleStrip

namespace Node

/-- All calls in a tree have the shape of calls. -/
def CallsShaped (m : Node) : Prop := ∀ n ∈ m.preorder, n.isCall = true → n.CallShape

/-- A tree in which whatever is a call has the shape of one, and so every tree
that is read. -/
lemma Shaped.callsShaped {m : Node} (hm : m.Shaped) : m.CallsShaped := by
  intro n hn hcall
  refine hm n hn ?_
  rw [isCall, Bool.and_eq_true, beq_iff_eq, beq_iff_eq] at hcall
  exact hcall.2

end Node

namespace Policy

variable {p : Policy} {gone : List (List Nat)} {r : Role} {k : Kind} {sp : Span} {ks : List Node}
  {way : List Nat} {above : List Node}

/-! ### Editing and children -/

lemma span_edited (n : Node) (h : p.Agrees gone (n.sitesFrom way above)) :
    (n.edited gone way).span = n.span := by
  cases n with
  | absent => rfl
  | node r k sp ks =>
      rcases edited_cases h with ⟨rfl, rfl, hedit⟩ | ⟨rfl, rfl, hedit⟩ | hedit
      all_goals rw [hedit]; rfl

/-- What is left of the children of a node contributes no children that they did
not, and all of them if no list of items among them is edited. -/
lemma childSpansOf_editKids (hall : ∀ c ∈ ks, ∀ way above, p.Agrees gone (c.sitesFrom way above) →
      (c.edited gone way).outerSpans ⊆ c.outerSpans
      ∧ (c.holdsItems = false → (c.edited gone way).outerSpans = c.outerSpans)) (k : Kind) :
    ∀ i, p.Agrees gone (Node.sitesOf way above i ks) →
      Node.childSpansOf (if k == .items then Node.editItems gone way i ks
          else Node.editAll gone way i ks) ⊆ Node.childSpansOf ks
      ∧ (k ≠ .items → Node.someHoldsItems ks = false →
        Node.childSpansOf (Node.editAll gone way i ks) = Node.childSpansOf ks) := by
  induction ks with
  | nil =>
      intro i _
      refine ⟨?_, fun _ _ => by rw [Node.editAll]⟩
      split <;> simp [Node.editItems, Node.editAll]
  | cons c cs ih =>
      intro i hagree
      rw [Node.sitesOf] at hagree
      obtain ⟨hsub, heq⟩ := hall c (by simp) (way ++ [i]) above
        fun s hs => hagree s (List.mem_append_left _ hs)
      obtain ⟨hsubs, heqs⟩ := ih (fun d hd => hall d (by simp [hd])) (i + 1)
        fun s hs => hagree s (List.mem_append_right _ hs)
      constructor
      · rw [Node.childSpansOf]
        split at hsubs
        · next hk =>
          rw [if_pos hk, Node.editItems]
          cases hedit : c.editFrom gone (way ++ [i]) with
          | none => exact List.subset_append_of_subset_right _ hsubs
          | some c' =>
              rw [Node.edited, hedit] at hsub
              exact List.append_subset.mpr ⟨List.subset_append_of_subset_left _ hsub,
                List.subset_append_of_subset_right _ hsubs⟩
        · next hk =>
          rw [if_neg hk, Node.editAll_cons, Node.childSpansOf]
          exact List.append_subset.mpr ⟨List.subset_append_of_subset_left _ hsub,
            List.subset_append_of_subset_right _ hsubs⟩
      · intro hk hholds
        rw [Node.someHoldsItems, Bool.or_eq_false_iff] at hholds
        rw [Node.editAll_cons, Node.childSpansOf, Node.childSpansOf, heq hholds.1,
          heqs hk hholds.2]

/-- What is left of a node contributes no children that the node did not, and
all of them if the node holds no items. -/
lemma outerSpans_edited (n : Node) : ∀ way above, p.Agrees gone (n.sitesFrom way above) →
    (n.edited gone way).outerSpans ⊆ n.outerSpans
    ∧ (n.holdsItems = false → (n.edited gone way).outerSpans = n.outerSpans) := by
  induction n using Node.ind with
  | habsent => exact fun _ _ _ => ⟨fun _ h => h, fun _ => rfl⟩
  | hnode r k sp ks ih =>
      intro way above h
      rcases edited_cases h with ⟨rfl, rfl, hedit⟩ | ⟨rfl, rfl, hedit⟩ | hedit
      · rw [hedit]
        exact ⟨fun _ h => h, fun _ => rfl⟩
      · rw [hedit]
        exact ⟨fun _ h => h, fun _ => rfl⟩
      · rw [hedit]
        by_cases hr : r = .plain
        · subst hr
          obtain ⟨hsub, heq⟩ := childSpansOf_editKids ih k 0 h.kids
          rw [Node.outerSpans_plain, Node.outerSpans_plain]
          refine ⟨hsub, fun hholds => ?_⟩
          obtain ⟨hk, hks⟩ : (k == .items) = false ∧ Node.someHoldsItems ks = false := by
            simpa [Node.holdsItems, Node.isChild, Node.role] using hholds
          have hk' : k ≠ .items := by simpa using hk
          rw [Node.editKids_eq_editAll hk', heq hk' hks]
        · have hspans : ∀ ks', (Node.node r k sp ks').outerSpans = [sp] :=
            fun _ => Node.outerSpans_eq_singleton hr
          rw [hspans, hspans]
          exact ⟨fun _ h => h, fun _ => rfl⟩

/-- A node that stays loses children at most. -/
lemma loses_editKids (h : p.Agrees gone ((Node.node r k sp ks).sitesFrom way above)) :
    (Node.node r k sp ks).extent.Loses (Node.node r k sp (Node.editKids gone way k ks)).extent where
  span := rfl
  children := (childSpansOf_editKids (fun c _ => outerSpans_edited c) k 0 h.kids).1

/-- What fills the place of a node has lost children at most. -/
lemma loses_edited (n : Node) (h : p.Agrees gone (n.sitesFrom way above)) :
    n.extent.Loses (n.edited gone way).extent := by
  cases n with
  | absent => exact ⟨rfl, fun _ h => h⟩
  | node r k sp ks =>
      rcases edited_cases h with ⟨rfl, rfl, hedit⟩ | ⟨rfl, rfl, hedit⟩ | hedit
      · rw [hedit]
        exact ⟨rfl, List.nil_subset _⟩
      · rw [hedit]
        exact ⟨rfl, List.nil_subset _⟩
      · rw [hedit]
        exact loses_editKids h

/-- A call loses no children. -/
lemma extent_editKids_of_callShape
    (h : p.Agrees gone ((Node.node r .call sp ks).sitesFrom way above))
    (hshape : (Node.node r .call sp ks).CallShape) :
    (Node.node r .call sp (Node.editKids gone way .call ks)).extent
      = (Node.node r .call sp ks).extent := by
  have heq := (childSpansOf_editKids (fun c _ => outerSpans_edited c) .call 0 h.kids).2
    (by simp) hshape.holds
  rw [Node.editKids_eq_editAll (by simp)]
  exact congrArg (Extent.mk sp) heq

/-! ### Editing and arguments -/

/-- An argument is its own expression unless it is dots with one child. -/
lemma argumentExpr_node (hno : ∀ e, ¬ (k = .spread ∧ ks = [e])) :
    (Node.node r k sp ks).argumentExpr = .node r k sp ks := by
  unfold Node.argumentExpr
  split
  · next heq =>
    obtain ⟨-, rfl, -, rfl⟩ := Node.node.inj heq
    exact absurd ⟨rfl, rfl⟩ (hno _)
  · rfl

/-- What is left of an argument has an expression that has lost children at
most. -/
lemma loses_argumentExpr_edited (a : Node) (h : p.Agrees gone (a.sitesFrom way above)) :
    a.argumentExpr.extent.Loses (a.edited gone way).argumentExpr.extent := by
  cases a with
  | absent => exact ⟨rfl, fun _ h => h⟩
  | node r k sp ks =>
      rcases edited_cases h with ⟨rfl, rfl, hedit⟩ | ⟨rfl, rfl, hedit⟩ | hedit
      · rw [hedit, argumentExpr_node (by simp)]
        exact ⟨rfl, List.nil_subset _⟩
      · rw [hedit, argumentExpr_node (by simp)]
        exact ⟨rfl, List.nil_subset _⟩
      · rw [hedit]
        by_cases hspread : ∃ e, k = .spread ∧ ks = [e]
        · obtain ⟨e, rfl, rfl⟩ := hspread
          have he : p.Agrees gone (e.sitesFrom (way ++ [0]) (.node r .spread sp [e] :: above)) :=
            fun s hs => h.kids s (by simpa [Node.sitesOf] using hs)
          rw [Node.editKids_eq_editAll (by simp), Node.editAll_cons, Node.editAll]
          exact loses_edited e he
        · have hno : ∀ e, ¬ (k = .spread ∧ ks = [e]) := fun e he => hspread ⟨e, he⟩
          rw [argumentExpr_node hno, argumentExpr_node]
          · exact loses_editKids h
          · rintro e ⟨rfl, hks⟩
            rw [Node.editKids_eq_editAll (by simp)] at hks
            have hlen : ks.length = 1 := by
              rw [← Node.length_editAll gone way ks 0, hks]
              rfl
            obtain ⟨e', rfl⟩ := List.length_eq_one_iff.mp hlen
            exact hno e' ⟨rfl, rfl⟩

/-- The comments around and in an argument are around and in what is left of
it. -/
lemma ofArgument_subset (idx : CommentIndex) (a : Node)
    (h : p.Agrees gone (a.sitesFrom way above)) :
    idx.ofArgument a ⊆ idx.ofArgument (a.edited gone way) := by
  have hspan := span_edited a h
  have hlo : (a.edited gone way).lo = a.lo := congrArg Span.lo hspan
  have hhi : (a.edited gone way).hi = a.hi := congrArg Span.hi hspan
  have hinterior := idx.interior_subset (loses_argumentExpr_edited a h)
  intro c hc
  rw [CommentIndex.ofArgument, List.mem_append, List.mem_append] at hc ⊢
  rw [hlo, hhi]
  exact hc.imp_left (Or.imp_right fun hmem => hinterior hmem)

/-- What is left of one of some nodes is among what is left of them. -/
lemma edited_mem_editAll : ∀ i, p.Agrees gone (Node.sitesOf way above i ks) → ∀ c ∈ ks,
    ∃ way', p.Agrees gone (c.sitesFrom way' above)
      ∧ c.edited gone way' ∈ Node.editAll gone way i ks := by
  induction ks with
  | nil => simp
  | cons d ds ih =>
      intro i hagree c hc
      rw [Node.sitesOf] at hagree
      rw [Node.editAll_cons]
      rcases List.mem_cons.mp hc with rfl | hc
      · exact ⟨way ++ [i], fun s hs => hagree s (List.mem_append_left _ hs), by simp⟩
      · obtain ⟨way', hc', hmem⟩ := ih (i + 1) (fun s hs => hagree s (List.mem_append_right _ hs))
          c hc
        exact ⟨way', hc', List.mem_cons_of_mem _ hmem⟩

/-- What is left of an argument of a call is an argument of what is left of the
call. -/
lemma edited_mem_arguments (h : p.Agrees gone ((Node.node r .call sp ks).sitesFrom way above))
    (hshape : (Node.node r .call sp ks).CallShape) {a : Node}
    (ha : a ∈ (Node.node r .call sp ks).arguments) :
    ∃ way' above', p.Agrees gone (a.sitesFrom way' above')
      ∧ a.edited gone way' ∈ (Node.node r .call sp (Node.editKids gone way .call ks)).arguments := by
  rw [Node.editKids_eq_editAll (by simp)]
  -- the list of arguments is the second child, and stays
  match ks, h, hshape, ha with
  | callee :: .node r' k' sp' args :: rest, h, hshape, ha =>
      obtain rfl : r' = .plain := hshape.role
      obtain rfl : k' = .list := hshape.kind
      have hlist : p.Agrees gone ((Node.node .plain .list sp' args).sitesFrom (way ++ [1])
          (.node r .call sp (callee :: .node .plain .list sp' args :: rest) :: above)) :=
        fun s hs => h.kids s (by simp [Node.sitesOf, hs])
      obtain ⟨way', ha', hmem⟩ := edited_mem_editAll 0 hlist.kids a ha
      refine ⟨way', _, ha', ?_⟩
      rcases edited_cases hlist with ⟨hr, -, -⟩ | ⟨hr, -, -⟩ | hedit
      · simp at hr
      · simp at hr
      · rw [Node.editAll_cons, Node.editAll_cons, hedit, Node.editKids_eq_editAll (by simp)]
        exact hmem

/-! ### What is left of a node and of what it stands in -/

/-- A node that stays, and what is left of it. -/
inductive LeftOf (p : Policy) (gone : List (List Nat)) : Node → Node → Prop where
  | stays {r : Role} {k : Kind} {sp : Span} {ks : List Node} {way : List Nat} {above : List Node}
      (h : p.Agrees gone ((Node.node r k sp ks).sitesFrom way above)) :
      LeftOf p gone (.node r k sp ks) (.node r k sp (Node.editKids gone way k ks))

section LeftOf

variable {n n' : Node} {above' : List Node}

lemma LeftOf.loses (h : p.LeftOf gone n n') : n.extent.Loses n'.extent := by
  cases h with
  | stays h => exact loses_editKids h

lemma LeftOf.isOwner_eq (h : p.LeftOf gone n n') : n'.isOwner = n.isOwner := by
  cases h with
  | stays h => rfl

lemma LeftOf.isParen_eq (h : p.LeftOf gone n n') : n'.isParen = n.isParen := by
  cases h with
  | stays h => exact Node.isParen_editKids ..

lemma LeftOf.matched?_eq (h : p.LeftOf gone n n') :
    n'.matched? p.includes = n.matched? p.includes := by
  cases h with
  | stays h => exact matched?_editKids h

/-- The innermost owner around what is left is what is left of the innermost
owner. -/
lemma ownerAmong?_left (h : List.Forall₂ (p.LeftOf gone) above above') :
    Option.Rel Extent.Loses (Node.ownerAmong? above) (Node.ownerAmong? above') := by
  induction h with
  | nil => exact .none
  | cons hn _ ih =>
      rw [Node.ownerAmong?_cons, Node.ownerAmong?_cons, hn.isOwner_eq]
      split
      · exact .some hn.loses
      · exact ih

end LeftOf

end Policy

namespace Node

/-- An expression statement. -/
def isExprStmt : Node → Bool
  | node .statement .exprStmt _ [_] => true
  | _ => false

lemma eq_exprStmt_of_isExprStmt {n : Node} (h : n.isExprStmt = true) :
    ∃ s e, n = node .statement .exprStmt s [e] := by
  unfold isExprStmt at h
  split at h
  · exact ⟨_, _, rfl⟩
  · simp at h

lemma isExprStmt_node (r : Role) (k : Kind) (s : Span) (ks : List Node) :
    (node r k s ks).isExprStmt = (r == .statement && (k == .exprStmt && ks.length == 1)) := by
  rw [Bool.eq_iff_iff, Bool.and_eq_true, Bool.and_eq_true, beq_iff_eq, beq_iff_eq, beq_iff_eq,
    List.length_eq_one_iff]
  constructor
  · intro h
    obtain ⟨s', e, heq⟩ := eq_exprStmt_of_isExprStmt h
    obtain ⟨rfl, rfl, -, rfl⟩ := node.inj heq
    exact ⟨rfl, rfl, e, rfl⟩
  · rintro ⟨rfl, rfl, e, rfl⟩
    rfl

/-- The statement that a node is the whole of is found past parentheses. -/
lemma statementAmong?_cons (n : Node) (above : List Node) :
    statementAmong? (n :: above)
      = if n.isParen then statementAmong? above else if n.isExprStmt then some n else none := by
  cases hp : n.isParen with
  | true =>
      obtain ⟨r, s, e, rfl⟩ := eq_paren_of_isParen hp
      rw [statementAmong?_paren]
      rfl
  | false =>
      cases hstmt : n.isExprStmt with
      | true =>
          obtain ⟨s, e, rfl⟩ := eq_exprStmt_of_isExprStmt hstmt
          rfl
      | false =>
          cases hfound : statementAmong? (n :: above) with
          | none => rfl
          | some stmt =>
              obtain ⟨-, s, e, rfl⟩ := statementAmong?_cons_eq_some hfound hp
              simp [isExprStmt] at hstmt

end Node

namespace Policy

variable {p : Policy} {gone : List (List Nat)} {above above' : List Node} {n n' : Node}

lemma LeftOf.isExprStmt_eq (h : p.LeftOf gone n n') : n'.isExprStmt = n.isExprStmt := by
  cases h with
  | @stays r k sp ks way above h =>
      rw [Node.isExprStmt_node, Node.isExprStmt_node]
      by_cases hk : k = .items
      · subst hk
        rfl
      · rw [Node.editKids_eq_editAll hk, Node.length_editAll]

/-- The statement that what is left is the whole of is what is left of the
statement. -/
lemma statementAmong?_left (h : List.Forall₂ (p.LeftOf gone) above above') :
    Option.Rel (p.LeftOf gone) (Node.statementAmong? above) (Node.statementAmong? above') := by
  induction h with
  | nil => exact .none
  | cons hn _ ih =>
      rw [Node.statementAmong?_cons, Node.statementAmong?_cons, hn.isParen_eq, hn.isExprStmt_eq]
      split
      · exact ih
      · split
        · exact .some hn
        · exact .none

/-- The owner at a site in what is left has lost children at most. -/
lemma owner?_left {s s' : Site} (h : List.Forall₂ (p.LeftOf gone) s.above s'.above) :
    Option.Rel Extent.Loses s.owner? s'.owner? := by
  have hstmt := statementAmong?_left h
  have howner := ownerAmong?_left h
  rw [Site.owner?, Site.owner?, Site.statement?, Site.statement?]
  generalize Node.statementAmong? s.above = stmt at hstmt
  generalize Node.statementAmong? s'.above = stmt' at hstmt
  cases hstmt with
  | none => exact howner
  | some hn => exact .some hn.loses

end Policy

/-! ### What speaks for a call -/

namespace CommentIndex

variable {idx : CommentIndex} {owner owner' : Option Extent} {c : Comment}

lemma mem_orOwner_of_subset {own : List Comment} {f : Extent → List Comment}
    (h : Option.Rel Extent.Loses owner owner') (hf : ∀ e e', e.Loses e' → f e ⊆ f e')
    (hc : c ∈ orOwner own owner f) : c ∈ orOwner own owner' f := by
  cases h with
  | none => exact hc
  | @some e e' hloses =>
      unfold orOwner at hc ⊢
      dsimp only at hc ⊢
      split at hc
      · next hempty =>
        rw [if_pos hempty]
        exact hf e e' hloses hc
      · next hempty =>
        rw [if_neg hempty]
        exact hc

/-- **What spoke for a call speaks for what is left of it.** -/
lemma collect_subset {p : Policy} {gone : List (List Nat)} {call call' : Node}
    (hleft : p.LeftOf gone call call') (hcall : call.isCall = true) (hshape : call.CallShape)
    (howner : Option.Rel Extent.Loses owner owner') :
    idx.collect call owner ⊆ idx.collect call' owner' := by
  cases hleft with
  | @stays r k sp ks way above h =>
      obtain ⟨-, rfl⟩ : r = .expression ∧ k = .call := by
        simpa [Node.isCall, Node.role, Node.kind] using hcall
      intro c hc
      rw [collect, List.mem_append, List.mem_append, List.mem_append] at hc ⊢
      -- the call's own places and children are what they were
      rw [Policy.extent_editKids_of_callShape h hshape]
      refine hc.imp (Or.imp (Or.imp ?_ ?_) ?_) ?_
      · refine mem_orOwner_of_subset howner fun e e' hloses => ?_
        rw [hloses.span]
        exact fun _ h => h
      · refine mem_orOwner_of_subset howner fun e e' hloses => ?_
        rw [hloses.span]
        exact fun _ h => h
      · exact mem_orOwner_of_subset howner fun e e' hloses => idx.interior_subset hloses
      · rw [List.mem_flatMap, List.mem_flatMap]
        rintro ⟨a, ha, hmem⟩
        obtain ⟨way', above', ha', hmem'⟩ := Policy.edited_mem_arguments h hshape ha
        exact ⟨_, hmem', Policy.ofArgument_subset idx a ha' hmem⟩

end CommentIndex

namespace Policy

variable {p : Policy} {gone : List (List Nat)}

/-! ### Where the calls that are left come from -/

/-- A call to decide about that is left of a node comes from one at a site below
the node that is reached and kept, and it stands in what is left of what that
one stands in. -/
def Origins (p : Policy) (gone : List (List Nat)) (n : Node) : Prop :=
  ∀ way above way' above', p.reachesUnder above = true → p.Agrees gone (n.sitesFrom way above) →
    List.Forall₂ (p.LeftOf gone) above above' →
    ∀ t' ∈ (n.edited gone way).sitesFrom way' above', t'.node.matched? p.includes ≠ none →
      ∃ t ∈ n.sitesFrom way above, p.condemns t = false ∧ p.LeftOf gone t.node t'.node
        ∧ List.Forall₂ (p.LeftOf gone) t.above t'.above

/-- The origins of the calls that are left of some nodes. -/
lemma origins_editKids {ks : List Node} (hall : ∀ c ∈ ks, p.Origins gone c) {way : List Nat}
    {above : List Node} (hreach : p.reachesUnder above = true) {above' : List Node}
    (habove : List.Forall₂ (p.LeftOf gone) above above') (k : Kind) :
    ∀ i way' i', p.Agrees gone (Node.sitesOf way above i ks) →
      ∀ t' ∈ Node.sitesOf way' above' i' (if k == .items then Node.editItems gone way i ks
          else Node.editAll gone way i ks), t'.node.matched? p.includes ≠ none →
      ∃ t ∈ Node.sitesOf way above i ks, p.condemns t = false ∧ p.LeftOf gone t.node t'.node
        ∧ List.Forall₂ (p.LeftOf gone) t.above t'.above := by
  induction ks with
  | nil =>
      intro i way' i' _ t' ht'
      split at ht' <;> simp [Node.editItems, Node.editAll, Node.sitesOf] at ht'
  | cons c cs ih =>
      intro i way' i' hagree t' ht' hmatched
      rw [Node.sitesOf] at hagree
      have hc := fun s hs => hagree s (List.mem_append_left _ hs)
      have hcs := fun s hs => hagree s (List.mem_append_right _ hs)
      rw [Node.sitesOf]
      -- the call is left of the first node or of a later one
      have hfirst : ∀ way', t' ∈ (c.edited gone (way ++ [i])).sitesFrom way' above' →
          ∃ t ∈ c.sitesFrom (way ++ [i]) above ++ Node.sitesOf way above (i + 1) cs,
            p.condemns t = false ∧ p.LeftOf gone t.node t'.node
              ∧ List.Forall₂ (p.LeftOf gone) t.above t'.above := by
        intro way' ht'
        obtain ⟨t, ht, horigin⟩ := hall c (by simp) _ _ _ _ hreach hc habove t' ht' hmatched
        exact ⟨t, List.mem_append_left _ ht, horigin⟩
      have hlater : ∀ way' i', t' ∈ Node.sitesOf way' above' i' (if k == .items
            then Node.editItems gone way (i + 1) cs else Node.editAll gone way (i + 1) cs) →
          ∃ t ∈ c.sitesFrom (way ++ [i]) above ++ Node.sitesOf way above (i + 1) cs,
            p.condemns t = false ∧ p.LeftOf gone t.node t'.node
              ∧ List.Forall₂ (p.LeftOf gone) t.above t'.above := by
        intro way' i' ht'
        obtain ⟨t, ht, horigin⟩ :=
          ih (fun d hd => hall d (by simp [hd])) (i + 1) way' i' hcs t' ht' hmatched
        exact ⟨t, List.mem_append_right _ ht, horigin⟩
      split at ht'
      · next hk =>
        simp only [hk, if_true] at hlater
        rw [Node.editItems] at ht'
        cases hedit : c.editFrom gone (way ++ [i]) with
        | none =>
            rw [hedit] at ht'
            exact hlater _ _ ht'
        | some c' =>
            rw [Node.edited, hedit] at hfirst
            rw [hedit, Option.toList_some, List.singleton_append, Node.sitesOf,
              List.mem_append] at ht'
            exact ht'.elim (hfirst _) (hlater _ _)
      · next hk =>
        simp only [hk] at hlater
        rw [Node.editAll_cons, Node.sitesOf, List.mem_append] at ht'
        exact ht'.elim (hfirst _) (hlater _ _)

/-- Nothing at and below what stands where a statement or a call was taken out is
a call to decide about. -/
lemma matched?_of_mem_sitesFrom_leaf {k : Kind} (hk : k ≠ .call) {r : Role} {sp : Span}
    {way' : List Nat} {above' : List Node} {t' : Site}
    (ht' : t' ∈ (Node.node r k sp []).sitesFrom way' above') :
    t'.node.matched? p.includes = none := by
  rw [Node.sitesFrom, Node.sitesOf, List.mem_singleton] at ht'
  subst ht'
  exact Node.matched?_eq_none (by simp [Node.isCall, Node.kind, hk])

/-- The calls that are left of any node have origins. -/
lemma origins (n : Node) : p.Origins gone n := by
  induction n using Node.ind with
  | habsent =>
      intro way above way' above' _ _ _ t' ht'
      simp [Node.edited, Node.editFrom, Node.sitesFrom] at ht'
  | hnode r k sp ks ih =>
      intro way above way' above' hreach hagree habove t' ht' hmatched
      rw [Node.edited] at ht'
      rcases Node.editFrom_cases gone way r k sp ks with
        ⟨w, -, -, hedit⟩ | ⟨-, ⟨-, hedit⟩ | ⟨hsite, hedit⟩⟩
      · rw [hedit] at ht'
        exact absurd (matched?_of_mem_sitesFrom_leaf (by simp) ht') hmatched
      · rw [hedit] at ht'
        exact absurd (matched?_of_mem_sitesFrom_leaf (by simp) ht') hmatched
      · have hleft : p.LeftOf gone (.node r k sp ks) (.node r k sp (Node.editKids gone way k ks)) :=
          .stays hagree
        have hcond : p.condemns ⟨way, above, .node r k sp ks⟩ = false := by
          rw [hagree.self, takesOut, reaches, hreach, Bool.true_and] at hsite
          exact hsite
        rw [hedit, Option.getD_some, Node.sitesFrom, List.mem_cons] at ht'
        rcases ht' with rfl | ht'
        · exact ⟨_, by simp [Node.sitesFrom], hcond, hleft, habove⟩
        · have hinner : p.reachesUnder (.node r k sp ks :: above) = true := by
            rw [reachesUnder_cons, ← p.condemns_way way, hcond, hreach]
            rfl
          obtain ⟨t, ht, horigin⟩ :=
            origins_editKids ih hinner (.cons hleft habove) k 0 way' 0 hagree.kids t' ht' hmatched
          exact ⟨t, by simp [Node.sitesFrom, ht], horigin⟩

/-- **Where a call that is left comes from.** It is left of a call of the given
tree that is kept, and stands in what is left of what that one stands in. -/
lemma exists_origin {m : Node} {t' : Site} (ht' : t' ∈ (p.strip m).1.sites)
    (hmatched : t'.node.matched? p.includes ≠ none) :
    ∃ t ∈ m.sites, p.condemns t = false ∧ p.LeftOf (p.takenOut m) t.node t'.node
      ∧ List.Forall₂ (p.LeftOf (p.takenOut m)) t.above t'.above := by
  rw [p.strip_eq] at ht'
  exact origins m [] [] [] [] rfl (fun s hs => p.contains_takenOut hs) .nil t' ht' hmatched

/-! ### Once more -/

/-- Of a stripped tree nothing is condemned. -/
lemma spares_strip {m : Node} (hm : m.CallsShaped) : p.Spares (p.strip m).1 := by
  intro t' ht'
  cases hmatched : t'.node.matched? p.includes with
  | none => exact p.condemns_eq_false hmatched
  | some member =>
      obtain ⟨t, ht, hkept, hleft, habove⟩ := exists_origin ht' (by simp [hmatched])
      rw [hleft.matched?_eq] at hmatched
      have hcall : t.node.isCall = true := by
        by_contra hno
        rw [Node.matched?_eq_none (Bool.eq_false_iff.mpr hno)] at hmatched
        simp at hmatched
      have hshape : t.node.CallShape := by
        refine hm _ ?_ hcall
        rw [← m.map_node_sites]
        exact List.mem_map_of_mem ht
      rw [condemns_of_matched hmatched, Bool.not_eq_false', Markers.keeps,
        List.any_eq_true] at hkept
      obtain ⟨c, hc, hmarker⟩ := hkept
      rw [← hleft.matched?_eq] at hmatched
      rw [condemns_of_matched hmatched, Bool.not_eq_false', Markers.keeps, List.any_eq_true]
      exact ⟨c, CommentIndex.collect_subset hleft hcall hshape (owner?_left habove) hc, hmarker⟩

/-- **Stripping again.** If calls have the shape that the syntax gives them, as they
have in whatever is read, then stripping a stripped tree leaves it as it is, keeps
every call that it decides about, and decides about the calls that were kept, in
their order. -/
theorem strip_again (p : Policy) {m : Node} (hm : m.CallsShaped) :
    let once := p.strip m
    let again := p.strip once.1
    again.1 = once.1
    ∧ again.2.map (fun v => (v.call, v.member, v.keep))
      = (once.2.filter (·.keep)).map (fun v => (v.call, v.member, true))
    ∧ Summary.ofVerdicts again.2 = ⟨0, 0, (Summary.ofVerdicts once.2).retained⟩ := by
  intro once again
  have hspares : p.Spares once.1 := spares_strip hm
  have hkeep : ∀ v ∈ again.2, v.keep = true := fun v hv => hspares.keep_of_mem hv
  refine ⟨hspares.strip_fst, ?_, ?_⟩
  · -- both lists are read off the same tree
    have hcalls : again.2.map (fun v => (v.call, v.member))
        = (once.2.filter (·.keep)).map (fun v => (v.call, v.member)) := by
      rw [← List.filter_eq_self.mpr hkeep]
      exact (p.filterMap_calledAs?_strip once.1).symm.trans
        ((congrArg (fun n : Node => n.preorder.filterMap (Node.calledAs? p.includes))
          hspares.strip_fst).trans (p.filterMap_calledAs?_strip m))
    calc again.2.map (fun v => (v.call, v.member, v.keep))
        = (again.2.map fun v => (v.call, v.member)).map (fun x => (x.1, x.2, true)) := by
          rw [List.map_map]
          exact List.map_congr_left fun v hv => by rw [hkeep v hv, Function.comp_apply]
      _ = (once.2.filter (·.keep)).map (fun v => (v.call, v.member, true)) := by
          rw [hcalls, List.map_map]
          rfl
  · rw [← p.countP_matched_strip m]
    exact hspares.ofVerdicts_strip

/-- A case that loses its statement leaves the marker to the call before it. -/
theorem strip_again_switch :
    ∃ file, parseFile "a.js"
        "switch (console.log(1)) \x7b /* keep-console */ case 2: console.warn(3); \x7d" .js
        = .ok file
      ∧ let p := ({} : Options).policy file.index
        let once := p.strip file.module
        Summary.ofVerdicts once.2 = ⟨1, 0, 1⟩
        ∧ (p.strip once.1).1 = once.1
        ∧ Summary.ofVerdicts (p.strip once.1).2 = ⟨0, 0, 1⟩ := by
  obtain ⟨file, hfile, hrun⟩ : ∃ file, parseFile "a.js"
        "switch (console.log(1)) \x7b /* keep-console */ case 2: console.warn(3); \x7d" .js
        = .ok file
      ∧ decide (Summary.ofVerdicts ((({} : Options).policy file.index).strip file.module).2
        = ⟨1, 0, 1⟩) = true :=
    exists_parsed (by decide +kernel)
  have honce := of_decide_eq_true hrun
  obtain ⟨htree, -, hagain⟩ :=
    (({} : Options).policy file.index).strip_again file.shaped.callsShaped
  rw [honce] at hagain
  exact ⟨file, hfile, honce, htree, hagain⟩

end Policy

end ConsoleStrip
