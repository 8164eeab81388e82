/-
Stripping is deciding on the given tree and then editing it.

* `Node.edit`: a tree without the calls at given ways. An expression statement
  goes with the call that is the whole of it; any other call becomes
  `undefined`. What the calls are and why they go plays no part;
* `Policy.visit_eq_edit`: the walk that decides and edits in one, from any node
  on, does what deciding about the sites below the node and editing it do;
* `Policy.strip_eq_edit`: the same for a whole tree. Every call that is decided
  about stands at a site of the given tree, is decided about once, and is judged
  with the owner that it has in the given tree.
-/
import ConsoleStrip.Proofs.Strip.Decision

namespace ConsoleStrip

/-! ### Editing -/

namespace Node

/-- The way from an expression to what is in its parentheses. -/
def parenWay : Node → List Nat
  | node _ .paren _ [e] => 0 :: e.parenWay
  | _ => []

/-- The way from an expression statement to the call that is the whole of it,
parentheses aside. -/
def wholeWay? : Node → Option (List Nat)
  | node .statement .exprStmt _ [e] =>
    if e.peelParens.isCall then some (0 :: e.parenWay) else none
  | _ => none

mutual

/-- What is left of a node that stands at `way` without the calls at the ways
`gone`. -/
def editFrom (gone : List (List Nat)) (way : List Nat) : Node → Option Node
  | absent => some absent
  | node r k s ks =>
    if (node r k s ks).wholeWay?.any fun w => gone.contains (way ++ w) then none
    else if gone.contains way then some (undefinedAt s)
    else
      some (node r k s (if k == .items then editItems gone way 0 ks else editAll gone way 0 ks))

/-- What is left of nodes each of which fills a place. -/
def editAll (gone : List (List Nat)) (way : List Nat) (i : Nat) : List Node → List Node
  | [] => []
  | n :: ns => (editFrom gone (way ++ [i]) n).getD (emptyAt n.span) :: editAll gone way (i + 1) ns

/-- What is left of the items of a list. -/
def editItems (gone : List (List Nat)) (way : List Nat) (i : Nat) : List Node → List Node
  | [] => []
  | n :: ns => (editFrom gone (way ++ [i]) n).toList ++ editItems gone way (i + 1) ns

end

/-- What is left of the children of a node of kind `k`. -/
def editKids (gone : List (List Nat)) (way : List Nat) (k : Kind) (ks : List Node) : List Node :=
  if k == .items then editItems gone way 0 ks else editAll gone way 0 ks

/-- A tree without the calls at the ways `gone`. -/
def edit (gone : List (List Nat)) (m : Node) : Node := (m.editFrom gone []).getD (emptyAt m.span)

lemma editFrom_eq_none {gone : List (List Nat)} {way w : List Nat} {r : Role} {k : Kind} {s : Span}
    {ks : List Node} (hw : (node r k s ks).wholeWay? = some w)
    (hgone : gone.contains (way ++ w) = true) : (node r k s ks).editFrom gone way = none := by
  rw [editFrom, hw, if_pos (by simpa using hgone)]

lemma editFrom_eq_undefined {gone : List (List Nat)} {way : List Nat} {r : Role} {k : Kind}
    {s : Span} {ks : List Node}
    (hw : ∀ w, (node r k s ks).wholeWay? = some w → gone.contains (way ++ w) = false)
    (hgone : gone.contains way = true) :
    (node r k s ks).editFrom gone way = some (undefinedAt s) := by
  rw [editFrom, if_neg, if_pos hgone]
  cases h : (node r k s ks).wholeWay? with
  | none => simp
  | some w => simpa using hw w h

lemma editFrom_eq_node {gone : List (List Nat)} {way : List Nat} {r : Role} {k : Kind} {s : Span}
    {ks : List Node}
    (hw : ∀ w, (node r k s ks).wholeWay? = some w → gone.contains (way ++ w) = false)
    (hgone : gone.contains way = false) :
    (node r k s ks).editFrom gone way = some (node r k s (editKids gone way k ks)) := by
  rw [editFrom, if_neg, if_neg (by rw [hgone]; exact Bool.false_ne_true)]
  · rfl
  · cases h : (node r k s ks).wholeWay? with
    | none => simp
    | some w => simpa using hw w h

/-- What editing can do to a node: a statement goes with its call, a call
becomes `undefined`, and anything else stays, with what is left of its
children. -/
lemma editFrom_cases (gone : List (List Nat)) (way : List Nat) (r : Role) (k : Kind) (s : Span)
    (ks : List Node) :
    (∃ w, (node r k s ks).wholeWay? = some w ∧ gone.contains (way ++ w) = true
      ∧ (node r k s ks).editFrom gone way = none)
    ∨ (∀ w, (node r k s ks).wholeWay? = some w → gone.contains (way ++ w) = false)
      ∧ (gone.contains way = true ∧ (node r k s ks).editFrom gone way = some (undefinedAt s)
        ∨ gone.contains way = false
          ∧ (node r k s ks).editFrom gone way = some (node r k s (editKids gone way k ks))) := by
  by_cases hw : ∃ w, (node r k s ks).wholeWay? = some w ∧ gone.contains (way ++ w) = true
  · obtain ⟨w, hw, hgone⟩ := hw
    exact .inl ⟨w, hw, hgone, editFrom_eq_none hw hgone⟩
  · have hstays : ∀ w, (node r k s ks).wholeWay? = some w → gone.contains (way ++ w) = false :=
      fun w h => Bool.eq_false_iff.mpr fun hgone => hw ⟨w, h, hgone⟩
    refine .inr ⟨hstays, ?_⟩
    cases hgone : gone.contains way with
    | true => exact .inl ⟨rfl, editFrom_eq_undefined hstays hgone⟩
    | false => exact .inr ⟨rfl, editFrom_eq_node hstays hgone⟩

/-! ### Parentheses -/

/-- Parentheses around an expression. -/
def isParen : Node → Bool
  | node _ .paren _ [_] => true
  | _ => false

lemma eq_paren_of_isParen {n : Node} (h : n.isParen = true) :
    ∃ r s e, n = node r .paren s [e] := by
  unfold isParen at h
  split at h
  · exact ⟨_, _, _, rfl⟩
  · simp at h

@[simp] lemma peelParens_paren (r : Role) (s : Span) (e : Node) :
    (node r .paren s [e]).peelParens = e.peelParens := by
  rw [peelParens]

@[simp] lemma parenWay_paren (r : Role) (s : Span) (e : Node) :
    (node r .paren s [e]).parenWay = 0 :: e.parenWay := by
  rw [parenWay]

lemma peelParens_eq_self {n : Node} (h : n.isParen = false) : n.peelParens = n := by
  unfold peelParens
  split
  · simp [isParen] at h
  · rfl

lemma parenWay_eq_nil {n : Node} (h : n.isParen = false) : n.parenWay = [] := by
  unfold parenWay
  split
  · simp [isParen] at h
  · rfl

lemma isParen_eq_false_of_isCall {n : Node} (h : n.isCall = true) : n.isParen = false := by
  unfold isParen
  split
  · simp [isCall, kind] at h
  · rfl

lemma matched?_eq_none {includes : List String} {n : Node} (h : n.isCall = false) :
    n.matched? includes = none := by
  simp [matched?, consoleMember?, h]

lemma matched?_paren (includes : List String) (r : Role) (s : Span) (e : Node) :
    (node r .paren s [e]).matched? includes = none :=
  matched?_eq_none (by simp [isCall, kind])

/-- What is matched behind no parentheses is matched itself. -/
lemma matched?_eq_none_of_peelParens {includes : List String} {n : Node}
    (h : n.peelParens.matched? includes = none) : n.matched? includes = none := by
  cases hp : n.isParen with
  | true =>
      obtain ⟨r, s, e, rfl⟩ := eq_paren_of_isParen hp
      exact matched?_paren ..
  | false => rwa [peelParens_eq_self hp] at h

/-- Through parentheses the statement that a node is the whole of stays the
same. -/
@[simp] lemma statementAmong?_paren (r : Role) (s : Span) (e : Node) (above : List Node) :
    statementAmong? (node r .paren s [e] :: above) = statementAmong? above := by
  rw [statementAmong?]

lemma statementCall?_eq_some {n c : Node} (h : n.statementCall? = some c) :
    ∃ s e, n = node .statement .exprStmt s [e] ∧ e.peelParens = c ∧ c.isCall = true := by
  unfold statementCall? at h
  split at h
  · split at h
    · next hcall =>
      obtain rfl := Option.some.inj h
      exact ⟨_, _, rfl, rfl, hcall⟩
    · simp at h
  · simp at h

/-- A statement has a way to the call that is the whole of it exactly if there
is such a call. -/
lemma wholeWay?_eq_none_iff {n : Node} : n.wholeWay? = none ↔ n.statementCall? = none := by
  unfold wholeWay? statementCall?
  split
  · split <;> simp_all
  · simp

lemma exists_statementCall? {n : Node} {w : List Nat} (h : n.wholeWay? = some w) :
    ∃ c, n.statementCall? = some c := by
  rw [← Option.ne_none_iff_exists', Ne, ← wholeWay?_eq_none_iff, h]
  simp

lemma statementAmong?_cons_eq_some {n : Node} {above : List Node} {stmt : Node}
    (h : statementAmong? (n :: above) = some stmt) (hn : n.isParen = false) :
    n = stmt ∧ ∃ s e, n = node .statement .exprStmt s [e] := by
  unfold statementAmong? at h
  split at h
  · next heq =>
    obtain ⟨rfl, rfl⟩ := List.cons.inj heq
    simp [isParen] at hn
  · next heq =>
    obtain ⟨rfl, rfl⟩ := List.cons.inj heq
    exact ⟨Option.some.inj h, _, _, rfl⟩
  · simp at h

/-- A call is the node of its first site. -/
lemma mem_sitesFrom_of_isCall {n : Node} (h : n.isCall = true) (way : List Nat)
    (above : List Node) : ⟨way, above, n⟩ ∈ n.sitesFrom way above := by
  cases n with
  | absent => simp [isCall, role] at h
  | node r k s ks => simp [sitesFrom]

/-- An owner among the nodes around a node is the innermost of them, if that is
one. -/
lemma ownerAmong?_cons (n : Node) (above : List Node) :
    ownerAmong? (n :: above) = if n.isOwner then some n.extent else ownerAmong? above := by
  cases h : n.isOwner <;> simp [ownerAmong?, h]

end Node

/-! ### The walk, case by case -/

namespace Policy

variable (p : Policy)

/-- What becomes of the children of a node of kind `k`. -/
def visitKids (owner : Option Extent) (k : Kind) (ks : List Node) : List Node × List Verdict :=
  if k == .items then p.visitItems owner ks else p.visitAll owner ks

/-- The verdict that the walk comes to at a node itself. -/
def met? (owner : Option Extent) (n : Node) : Option Verdict :=
  match n.role with
  | .statement => n.statementCall?.bind (p.judge (some n.extent) true)
  | .expression => p.judge owner false n
  | _ => none

section Cases

variable {p} {owner : Option Extent} {r : Role} {k : Kind} {s : Span} {ks : List Node}
  {v : Verdict}

lemma visit_of_met?_none (above : List Node)
    (h : p.met? (Node.ownerAmong? above) (.node r k s ks) = none) :
    p.visit (Node.ownerAmong? above) (.node r k s ks)
      = (some (.node r k s (p.visitKids (Node.ownerAmong? (.node r k s ks :: above)) k ks).1),
          (p.visitKids (Node.ownerAmong? (.node r k s ks :: above)) k ks).2) := by
  rw [Node.ownerAmong?_cons]
  unfold visit
  cases r with
  | statement =>
      have hjudge : (Node.node .statement k s ks).statementCall?.bind
          (p.judge (some (Node.node .statement k s ks).extent) true) = none := h
      simp only [hjudge]
      rfl
  | expression =>
      have hjudge : p.judge (Node.ownerAmong? above) false (.node .expression k s ks) = none := h
      simp only [hjudge]
      rfl
  | _ => rfl

lemma visit_of_statement_gone (h : p.met? owner (.node .statement k s ks) = some v)
    (hv : v.keep = false) : p.visit owner (.node .statement k s ks) = (none, [v]) := by
  unfold visit
  simp_all [met?, Node.role]

lemma visit_of_statement_kept (h : p.met? owner (.node .statement k s ks) = some v)
    (hv : v.keep = true) :
    p.visit owner (.node .statement k s ks)
      = (some (.node .statement k s (p.visitKept ks).1), v :: (p.visitKept ks).2) := by
  unfold visit
  simp_all [met?, Node.role]

lemma visit_of_expression_gone (h : p.met? owner (.node .expression k s ks) = some v)
    (hv : v.keep = false) :
    p.visit owner (.node .expression k s ks) = (some (.undefinedAt s), [v]) := by
  unfold visit
  simp_all [met?, Node.role]

lemma visit_of_expression_kept (above : List Node)
    (h : p.met? (Node.ownerAmong? above) (.node .expression k s ks) = some v)
    (hv : v.keep = true) :
    p.visit (Node.ownerAmong? above) (.node .expression k s ks)
      = (some (.node .expression k s
            (p.visitKids (Node.ownerAmong? (.node .expression k s ks :: above)) k ks).1),
          v :: (p.visitKids (Node.ownerAmong? (.node .expression k s ks :: above)) k ks).2) := by
  rw [Node.ownerAmong?_cons]
  unfold visit
  simp_all [met?, visitKids, Node.role]

end Cases

/-! ### Sites that decide nothing -/

lemma reachesUnder_cons (n : Node) (above : List Node) :
    p.reachesUnder (n :: above) = (!p.condemns ⟨[], above, n⟩ && p.reachesUnder above) := rfl

/-- Inside a node that is no call to decide about as much is reached as outside
it. -/
lemma reachesUnder_cons_of_unmatched {n : Node} (h : n.matched? p.includes = none)
    (above : List Node) : p.reachesUnder (n :: above) = p.reachesUnder above := by
  rw [reachesUnder_cons, p.condemns_eq_false h]
  rfl

/-- What is not reached from some nodes is not reached from inside more. -/
lemma reachesUnder_of_suffix {above inner : List Node} (hs : above <:+ inner)
    (h : p.reachesUnder above = false) : p.reachesUnder inner = false := by
  obtain ⟨pre, rfl⟩ := hs
  induction pre with
  | nil => exact h
  | cons n pre ih => rw [List.cons_append, reachesUnder_cons, ih, Bool.and_false]

/-- Nothing below a node that is not reached is decided about. -/
lemma decisions_sitesOf_eq_nil {ks : List Node} {way : List Nat} {above : List Node} {i : Nat}
    (h : p.reachesUnder above = false) : p.decisions (Node.sitesOf way above i ks) = [] := by
  exact p.decisions_eq_nil fun s hs => p.reachesUnder_of_suffix (Node.above_of_mem_sitesOf hs) h

/-- A node that is no call to decide about leaves the decisions to its
children. -/
lemma decisions_sitesFrom_of_unmatched {r : Role} {k : Kind} {sp : Span} {ks : List Node}
    (h : (Node.node r k sp ks).matched? p.includes = none) (way : List Nat) (above : List Node) :
    p.decisions ((Node.node r k sp ks).sitesFrom way above)
      = p.decisions (Node.sitesOf way (.node r k sp ks :: above) 0 ks) := by
  rw [Node.sitesFrom, decisions_cons, p.verdict?_eq_none h]
  simp

/-- A call that goes is the only one decided about at and below its site. -/
lemma decisions_sitesFrom_of_gone {r : Role} {k : Kind} {sp : Span} {ks : List Node}
    {way : List Nat} {above : List Node} {v : Verdict} (hreach : p.reachesUnder above = true)
    (hverdict : p.verdict? ⟨way, above, .node r k sp ks⟩ = some v) (hv : v.keep = false) :
    p.decisions ((Node.node r k sp ks).sitesFrom way above) = [v] := by
  have hinner : p.reachesUnder (.node r k sp ks :: above) = false := by
    have hcond : p.condemns ⟨[], above, .node r k sp ks⟩ = true := by
      rw [← p.condemns_way way, condemns, hverdict]
      simp [hv]
    rw [reachesUnder_cons, hcond]
    rfl
  rw [Node.sitesFrom, decisions_cons, p.decisions_sitesOf_eq_nil hinner, hverdict]
  simp [reaches, hreach]

/-- A call that is kept is decided about before what is in it. -/
lemma decisions_sitesFrom_of_kept {r : Role} {k : Kind} {sp : Span} {ks : List Node}
    {way : List Nat} {above : List Node} {v : Verdict} (hreach : p.reachesUnder above = true)
    (hverdict : p.verdict? ⟨way, above, .node r k sp ks⟩ = some v) :
    p.decisions ((Node.node r k sp ks).sitesFrom way above)
      = v :: p.decisions (Node.sitesOf way (.node r k sp ks :: above) 0 ks) := by
  rw [Node.sitesFrom, decisions_cons, hverdict]
  simp [reaches, hreach]

/-- What is in parentheses stands at the same place as they do: the sites at and
below it come after those of the parentheses, it is the whole of what they are
the whole of, and it is reached if they are. -/
lemma peel (n : Node) : ∀ way above, ∃ outer inner,
    n.sitesFrom way above = outer ++ n.peelParens.sitesFrom (way ++ n.parenWay) inner
    ∧ (∀ s ∈ outer, s.node.isParen = true)
    ∧ Node.statementAmong? inner = Node.statementAmong? above
    ∧ p.reachesUnder inner = p.reachesUnder above := by
  induction n using Node.ind with
  | habsent =>
      intro way above
      exact ⟨[], above, by simp [Node.peelParens, Node.sitesFrom], by simp, rfl, rfl⟩
  | hnode r k sp ks ih =>
      intro way above
      cases hp : (Node.node r k sp ks).isParen with
      | false =>
          rw [Node.peelParens_eq_self hp, Node.parenWay_eq_nil hp, List.append_nil]
          exact ⟨[], above, rfl, by simp, rfl, rfl⟩
      | true =>
          obtain ⟨r', s', e, heq⟩ := Node.eq_paren_of_isParen hp
          obtain ⟨rfl, rfl, rfl, rfl⟩ := Node.node.inj heq
          obtain ⟨outer, inner, hsites, houter, hstmt, hreach⟩ :=
            ih e (by simp) (way ++ [0]) (.node r .paren sp [e] :: above)
          refine ⟨⟨way, above, .node r .paren sp [e]⟩ :: outer, inner, ?_, ?_, ?_, ?_⟩
          · simp [Node.sitesFrom, Node.sitesOf, hsites]
          · simpa using ⟨hp, houter⟩
          · rw [hstmt, Node.statementAmong?_paren]
          · rw [hreach, p.reachesUnder_cons_of_unmatched (Node.matched?_paren ..)]

/-! ### Deciding first -/

/-- The ways `gone` are, of some sites, those of the calls that are taken
out. -/
def Agrees (gone : List (List Nat)) (ss : List Site) : Prop :=
  ∀ s ∈ ss, gone.contains s.way = p.takesOut s

/-- The walk over a node is to decide about the sites below it and then to
edit it. If the node is the whole of a statement, that statement has been found
not to be a call to decide about. -/
def Splits (gone : List (List Nat)) (n : Node) : Prop :=
  ∀ way above, p.reachesUnder above = true →
    ((Node.statementAmong? above).isSome → n.peelParens.matched? p.includes = none) →
    p.Agrees gone (n.sitesFrom way above) →
    p.visit (Node.ownerAmong? above) n
      = (n.editFrom gone way, p.decisions (n.sitesFrom way above))

/-- The walk over the whole of a statement whose call is kept is to decide
about the sites below it and then to edit it; the first decision is that about
the call. -/
def SplitsKept (gone : List (List Nat)) (n : Node) : Prop :=
  ∀ way above stmt v, p.reachesUnder above = true →
    Node.statementAmong? above = some stmt →
    p.judge (some stmt.extent) true n.peelParens = some v → v.keep = true →
    p.Agrees gone (n.sitesFrom way above) →
    ∃ n' vs, p.visitKept [n] = ([n'], vs) ∧ n.editFrom gone way = some n'
      ∧ p.decisions (n.sitesFrom way above) = v :: vs

variable {p} {gone : List (List Nat)}

lemma Agrees.self {r : Role} {k : Kind} {sp : Span} {ks : List Node} {way : List Nat}
    {above : List Node} (h : p.Agrees gone ((Node.node r k sp ks).sitesFrom way above)) :
    gone.contains way = p.takesOut ⟨way, above, .node r k sp ks⟩ :=
  h ⟨way, above, .node r k sp ks⟩ (by simp [Node.sitesFrom])

lemma Agrees.kids {r : Role} {k : Kind} {sp : Span} {ks : List Node} {way : List Nat}
    {above : List Node} (h : p.Agrees gone ((Node.node r k sp ks).sitesFrom way above)) :
    p.Agrees gone (Node.sitesOf way (.node r k sp ks :: above) 0 ks) :=
  fun t ht => h t (by simp [Node.sitesFrom, ht])

lemma visitAll_eq_edit {ks : List Node} (hall : ∀ c ∈ ks, p.Splits gone c) {way : List Nat}
    {above : List Node} (hreach : p.reachesUnder above = true)
    (hwhole : (Node.statementAmong? above).isSome →
      ∀ c ∈ ks, c.peelParens.matched? p.includes = none) :
    ∀ i, p.Agrees gone (Node.sitesOf way above i ks) →
      p.visitAll (Node.ownerAmong? above) ks
        = (Node.editAll gone way i ks, p.decisions (Node.sitesOf way above i ks)) := by
  induction ks with
  | nil => intro i _; simp [visitAll, Node.editAll, Node.sitesOf]
  | cons c cs ih =>
      intro i hagree
      rw [Node.sitesOf] at hagree
      have hc := hall c (by simp) (way ++ [i]) above hreach (fun h => hwhole h c (by simp))
        fun s hs => hagree s (List.mem_append_left _ hs)
      have hcs := ih (fun d hd => hall d (by simp [hd])) (fun h d hd => hwhole h d (by simp [hd]))
        (i + 1) fun s hs => hagree s (List.mem_append_right _ hs)
      rw [visitAll, hc, hcs, Node.editAll, Node.sitesOf, decisions_append]

lemma visitItems_eq_edit {ks : List Node} (hall : ∀ c ∈ ks, p.Splits gone c) {way : List Nat}
    {above : List Node} (hreach : p.reachesUnder above = true)
    (hwhole : (Node.statementAmong? above).isSome →
      ∀ c ∈ ks, c.peelParens.matched? p.includes = none) :
    ∀ i, p.Agrees gone (Node.sitesOf way above i ks) →
      p.visitItems (Node.ownerAmong? above) ks
        = (Node.editItems gone way i ks, p.decisions (Node.sitesOf way above i ks)) := by
  induction ks with
  | nil => intro i _; simp [visitItems, Node.editItems, Node.sitesOf]
  | cons c cs ih =>
      intro i hagree
      rw [Node.sitesOf] at hagree
      have hc := hall c (by simp) (way ++ [i]) above hreach (fun h => hwhole h c (by simp))
        fun s hs => hagree s (List.mem_append_left _ hs)
      have hcs := ih (fun d hd => hall d (by simp [hd])) (fun h d hd => hwhole h d (by simp [hd]))
        (i + 1) fun s hs => hagree s (List.mem_append_right _ hs)
      rw [visitItems, hc, hcs, Node.editItems, Node.sitesOf, decisions_append]

lemma visitKids_eq_edit {ks : List Node} (hall : ∀ c ∈ ks, p.Splits gone c) {way : List Nat}
    {above : List Node} (hreach : p.reachesUnder above = true)
    (hwhole : (Node.statementAmong? above).isSome →
      ∀ c ∈ ks, c.peelParens.matched? p.includes = none)
    (hagree : p.Agrees gone (Node.sitesOf way above 0 ks)) (k : Kind) :
    p.visitKids (Node.ownerAmong? above) k ks
      = (Node.editKids gone way k ks, p.decisions (Node.sitesOf way above 0 ks)) := by
  unfold visitKids Node.editKids
  split
  · exact visitItems_eq_edit hall hreach hwhole 0 hagree
  · exact visitAll_eq_edit hall hreach hwhole 0 hagree

section Node

variable {r : Role} {k : Kind} {sp : Span} {ks : List Node} {way : List Nat} {above : List Node}
  {v : Verdict}

/-- A node at which the walk comes to no verdict is no call to decide about. -/
lemma unmatched_of_met?_none {owner : Option Extent} {n : Node} (h : p.met? owner n = none) :
    n.matched? p.includes = none := by
  cases hcall : n.isCall with
  | false => exact Node.matched?_eq_none hcall
  | true =>
      have hrole : n.role = .expression := by
        simp only [Node.isCall, Bool.and_eq_true, beq_iff_eq] at hcall
        exact hcall.1
      rw [met?, hrole] at h
      exact p.matched?_of_judge h

/-- What stands in an expression statement at which the walk comes to no
verdict is no call to decide about. -/
lemma unmatched_whole {owner : Option Extent} {e : Node}
    (h : p.met? owner (.node .statement .exprStmt sp [e]) = none) :
    e.peelParens.matched? p.includes = none := by
  cases hcall : e.peelParens.isCall with
  | false => exact Node.matched?_eq_none hcall
  | true =>
      simp only [met?, Node.role, Node.statementCall?, hcall, if_true, Option.bind_some] at h
      exact p.matched?_of_judge h

/-- If a node that the walk comes through is not the whole of a call to decide
about, neither is any of its children. -/
lemma unmatched_kids (hwhole : (Node.statementAmong? above).isSome →
      (Node.node r k sp ks).peelParens.matched? p.includes = none)
    (hmet : p.met? (Node.ownerAmong? above) (.node r k sp ks) = none) :
    (Node.statementAmong? (.node r k sp ks :: above)).isSome →
      ∀ c ∈ ks, c.peelParens.matched? p.includes = none := by
  intro hsome c hc
  obtain ⟨stmt, hstmt⟩ := Option.isSome_iff_exists.mp hsome
  cases hp : (Node.node r k sp ks).isParen with
  | true =>
      obtain ⟨r', s', e, heq⟩ := Node.eq_paren_of_isParen hp
      obtain ⟨rfl, rfl, rfl, rfl⟩ := Node.node.inj heq
      rw [Node.statementAmong?_paren] at hsome
      rw [List.mem_singleton.mp hc]
      simpa using hwhole hsome
  | false =>
      obtain ⟨-, s', e, heq⟩ := Node.statementAmong?_cons_eq_some hstmt hp
      obtain ⟨rfl, rfl, rfl, rfl⟩ := Node.node.inj heq
      rw [List.mem_singleton.mp hc]
      exact unmatched_whole hmet

/-- The sites of a statement with a call that is the whole of it: first come the
statement and parentheses, then the call and what is in it. The call is reached
if the statement is, it is the whole of the statement at its own site too, and
it is judged with the statement as its owner. -/
lemma exists_wholeSite {n c : Node} (way : List Nat) (hcall : n.statementCall? = some c)
    (hreach : p.reachesUnder above = true) : ∃ w outer inner, n.wholeWay? = some w
      ∧ n.sitesFrom way above = ⟨way, above, n⟩ :: outer ++ c.sitesFrom (way ++ w) inner
      ∧ (∀ s ∈ outer, s.node.isParen = true) ∧ p.reachesUnder inner = true
      ∧ Node.statementAmong? inner = some n
      ∧ p.verdict? ⟨way ++ w, inner, c⟩ = p.judge (some n.extent) true c := by
  obtain ⟨s, e, rfl, rfl, hc⟩ := Node.statementCall?_eq_some hcall
  have hun : (Node.node .statement .exprStmt s [e]).matched? p.includes = none :=
    Node.matched?_eq_none (by simp [Node.isCall, Node.role])
  obtain ⟨outer, inner, hsites, houter, hstmt, hinner⟩ :=
    p.peel e (way ++ [0]) (.node .statement .exprStmt s [e] :: above)
  have hsome : Node.statementAmong? inner = some (.node .statement .exprStmt s [e]) := by
    rw [hstmt]
    rfl
  refine ⟨0 :: e.parenWay, outer, inner, ?_, ?_, houter, ?_, hsome, ?_⟩
  · simp [Node.wholeWay?, hc]
  · simp [Node.sitesFrom, Node.sitesOf, hsites]
  · rw [hinner, p.reachesUnder_cons_of_unmatched hun, hreach]
  · simp [verdict?, Site.owner?, Site.statement?, hsome]

lemma mem_wholeSite {n c : Node} {w : List Nat} {outer : List Site} {inner : List Node}
    (hcall : n.statementCall? = some c)
    (hsites : n.sitesFrom way above = ⟨way, above, n⟩ :: outer ++ c.sitesFrom (way ++ w) inner) :
    ⟨way ++ w, inner, c⟩ ∈ n.sitesFrom way above := by
  obtain ⟨-, -, -, -, hc⟩ := Node.statementCall?_eq_some hcall
  rw [hsites]
  exact List.mem_append_right _ (Node.mem_sitesFrom_of_isCall hc _ _)

/-- The call that is the whole of a statement decides for the statement. -/
lemma decisions_wholeSite {n c : Node} {w : List Nat} {outer : List Site} {inner : List Node}
    (hcall : n.statementCall? = some c)
    (hsites : n.sitesFrom way above = ⟨way, above, n⟩ :: outer ++ c.sitesFrom (way ++ w) inner)
    (houter : ∀ s ∈ outer, s.node.isParen = true) :
    p.decisions (n.sitesFrom way above) = p.decisions (c.sitesFrom (way ++ w) inner) := by
  have hun : ∀ s ∈ (⟨way, above, n⟩ :: outer : List Site), p.verdict? s = none := by
    intro s hs
    refine p.verdict?_eq_none (Node.matched?_eq_none ?_)
    rcases List.mem_cons.mp hs with rfl | hs
    · obtain ⟨sp, e, rfl, -, -⟩ := Node.statementCall?_eq_some hcall
      simp [Node.isCall, Node.role]
    · by_contra hno
      have hp := Node.isParen_eq_false_of_isCall (Bool.not_eq_false _ ▸ hno)
      simp [houter s hs] at hp
  rw [hsites, decisions_append, p.decisions_eq_nil_of_unmatched hun, List.nil_append]

/-- The walk over a statement that goes with its call. -/
lemma split_statement_gone (hreach : p.reachesUnder above = true)
    (hagree : p.Agrees gone ((Node.node .statement k sp ks).sitesFrom way above))
    (hmet : p.met? (Node.ownerAmong? above) (.node .statement k sp ks) = some v)
    (hv : v.keep = false) :
    p.visit (Node.ownerAmong? above) (.node .statement k sp ks)
      = ((Node.node .statement k sp ks).editFrom gone way,
          p.decisions ((Node.node .statement k sp ks).sitesFrom way above)) := by
  obtain ⟨c, hcall, hjudge⟩ := Option.bind_eq_some_iff.mp hmet
  obtain ⟨w, outer, inner, hw, hsites, houter, hreached, -, hverdict⟩ :=
    exists_wholeSite way hcall hreach
  rw [hjudge] at hverdict
  have hgone : gone.contains (way ++ w) = true := by
    rw [hagree _ (mem_wholeSite hcall hsites), takesOut, reaches, hreached, condemns, hverdict]
    simp [hv]
  rw [visit_of_statement_gone hmet hv, Node.editFrom_eq_none hw hgone,
    decisions_wholeSite hcall hsites houter]
  cases c with
  | absent => simp [judge, Node.matched?, Node.consoleMember?, Node.isCall, Node.role] at hjudge
  | node r' k' s' ks' => rw [p.decisions_sitesFrom_of_gone hreached hverdict hv]

/-- The walk over a statement whose call is kept. -/
lemma split_statement_kept (hkept : ∀ c ∈ ks, p.SplitsKept gone c)
    (hreach : p.reachesUnder above = true)
    (hagree : p.Agrees gone ((Node.node .statement k sp ks).sitesFrom way above))
    (hmet : p.met? (Node.ownerAmong? above) (.node .statement k sp ks) = some v)
    (hv : v.keep = true) :
    p.visit (Node.ownerAmong? above) (.node .statement k sp ks)
      = ((Node.node .statement k sp ks).editFrom gone way,
          p.decisions ((Node.node .statement k sp ks).sitesFrom way above)) := by
  obtain ⟨c, hcall, hjudge⟩ := Option.bind_eq_some_iff.mp hmet
  obtain ⟨w, outer, inner, hw, hsites, houter, hreached, -, hverdict⟩ :=
    exists_wholeSite way hcall hreach
  rw [hjudge] at hverdict
  have hstays : gone.contains (way ++ w) = false := by
    rw [hagree _ (mem_wholeSite hcall hsites), takesOut, reaches, hreached, condemns, hverdict]
    simp [hv]
  obtain ⟨s, e, heq, rfl, hisCall⟩ := Node.statementCall?_eq_some hcall
  obtain ⟨-, rfl, rfl, rfl⟩ := Node.node.inj heq
  have hun : (Node.node .statement .exprStmt sp [e]).matched? p.includes = none :=
    Node.matched?_eq_none (by simp [Node.isCall, Node.role])
  have hsite : gone.contains way = false := by
    rw [hagree.self, takesOut, p.condemns_eq_false hun, Bool.and_false]
  -- inside the statement its expression is visited as the whole of it
  have hinner : p.reachesUnder (.node .statement .exprStmt sp [e] :: above) = true := by
    rw [p.reachesUnder_cons_of_unmatched hun, hreach]
  obtain ⟨e', vs, hvisit, hedit, hdecs⟩ := hkept e (by simp) (way ++ [0]) _ _ v hinner rfl hjudge hv
    fun t ht => hagree t (by simp [Node.sitesFrom, Node.sitesOf, ht])
  rw [visit_of_statement_kept hmet hv, hvisit, Node.editFrom_eq_node _ hsite,
    p.decisions_sitesFrom_of_unmatched hun]
  · simp [Node.editKids, Node.editAll, hedit, Node.sitesOf, hdecs]
  · intro w' hw'
    rw [hw] at hw'
    exact Option.some.inj hw' ▸ hstays

/-- The walk over an expression at which it comes to a verdict. -/
lemma split_expression (hall : ∀ c ∈ ks, p.Splits gone c) (hreach : p.reachesUnder above = true)
    (hwhole : (Node.statementAmong? above).isSome →
      (Node.node .expression k sp ks).peelParens.matched? p.includes = none)
    (hagree : p.Agrees gone ((Node.node .expression k sp ks).sitesFrom way above))
    (hmet : p.met? (Node.ownerAmong? above) (.node .expression k sp ks) = some v) :
    p.visit (Node.ownerAmong? above) (.node .expression k sp ks)
      = ((Node.node .expression k sp ks).editFrom gone way,
          p.decisions ((Node.node .expression k sp ks).sitesFrom way above)) := by
  have hmatched : (Node.node .expression k sp ks).matched? p.includes ≠ none :=
    fun h => by simp [met?, Node.role, p.judge_eq_none h] at hmet
  -- the expression is not the whole of a statement: the statement would have been judged
  have hnone : Node.statementAmong? above = none := by
    by_contra hsome
    exact hmatched (Node.matched?_eq_none_of_peelParens
      (hwhole (Option.isSome_iff_ne_none.mpr hsome)))
  have hverdict : p.verdict? ⟨way, above, .node .expression k sp ks⟩ = some v := by
    rw [← hmet]
    simp [verdict?, Site.owner?, Site.statement?, hnone, met?, Node.role]
  have hsite : gone.contains way = !v.keep := by
    rw [hagree.self, takesOut, reaches, hreach, condemns, hverdict]
    rfl
  have hway : (Node.node .expression k sp ks).wholeWay? = none := by
    rw [Node.wholeWay?_eq_none_iff]
    rfl
  cases hv : v.keep with
  | false =>
      rw [visit_of_expression_gone hmet hv,
        Node.editFrom_eq_undefined (by simp [hway]) (by rw [hsite, hv]; rfl),
        p.decisions_sitesFrom_of_gone hreach hverdict hv]
  | true =>
      have hinner : p.reachesUnder (.node .expression k sp ks :: above) = true := by
        rw [reachesUnder_cons, ← p.condemns_way way, condemns, hverdict, hreach]
        simp [hv]
      have hcall : (Node.node .expression k sp ks).isParen = false := by
        refine Node.isParen_eq_false_of_isCall ?_
        by_contra hno
        exact hmatched (Node.matched?_eq_none (Bool.eq_false_iff.mpr hno))
      have hwhole' : (Node.statementAmong? (.node .expression k sp ks :: above)).isSome →
          ∀ c ∈ ks, c.peelParens.matched? p.includes = none := by
        intro hsome
        obtain ⟨stmt, hstmt⟩ := Option.isSome_iff_exists.mp hsome
        obtain ⟨-, s', e, heq⟩ := Node.statementAmong?_cons_eq_some hstmt hcall
        simp at heq
      rw [visit_of_expression_kept above hmet hv,
        visitKids_eq_edit hall hinner hwhole' hagree.kids k,
        Node.editFrom_eq_node (by simp [hway]) (by rw [hsite, hv]; rfl),
        p.decisions_sitesFrom_of_kept hreach hverdict]

/-- The walk over a node at which it comes to no verdict. -/
lemma split_unmet (hall : ∀ c ∈ ks, p.Splits gone c) (hreach : p.reachesUnder above = true)
    (hwhole : (Node.statementAmong? above).isSome →
      (Node.node r k sp ks).peelParens.matched? p.includes = none)
    (hagree : p.Agrees gone ((Node.node r k sp ks).sitesFrom way above))
    (hmet : p.met? (Node.ownerAmong? above) (.node r k sp ks) = none) :
    p.visit (Node.ownerAmong? above) (.node r k sp ks)
      = ((Node.node r k sp ks).editFrom gone way,
          p.decisions ((Node.node r k sp ks).sitesFrom way above)) := by
  have hun := unmatched_of_met?_none hmet
  have hsite : gone.contains way = false := by
    rw [hagree.self, takesOut, p.condemns_eq_false hun, Bool.and_false]
  have hinner : p.reachesUnder (.node r k sp ks :: above) = true := by
    rw [p.reachesUnder_cons_of_unmatched hun, hreach]
  rw [visit_of_met?_none above hmet,
    visitKids_eq_edit hall hinner (unmatched_kids hwhole hmet) hagree.kids k,
    Node.editFrom_eq_node _ hsite, p.decisions_sitesFrom_of_unmatched hun]
  intro w hw
  -- a call that is the whole of the node, if there is one, is none to decide about
  obtain ⟨c, hc⟩ := Node.exists_statementCall? hw
  obtain ⟨w', outer, inner, hw', hsites, -, -, -, -⟩ := exists_wholeSite way hc hreach
  obtain ⟨s', e, heq, rfl, -⟩ := Node.statementCall?_eq_some hc
  obtain ⟨rfl, rfl, rfl, rfl⟩ := Node.node.inj heq
  rw [hw'] at hw
  obtain rfl := Option.some.inj hw
  rw [hagree _ (mem_wholeSite hc hsites), takesOut, p.condemns_eq_false (unmatched_whole hmet),
    Bool.and_false]

/-- The walk inside a call that is the whole of a statement and is kept. -/
lemma splitKept_call (hall : ∀ c ∈ ks, p.Splits gone c)
    (hp : (Node.node r k sp ks).isParen = false) :
    p.SplitsKept gone (.node r k sp ks) := by
  intro way above stmt v hreach hstmt hjudge hv hagree
  rw [Node.peelParens_eq_self hp] at hjudge
  have hverdict : p.verdict? ⟨way, above, .node r k sp ks⟩ = some v := by
    rw [← hjudge]
    simp [verdict?, Site.owner?, Site.statement?, hstmt]
  have hsite : gone.contains way = false := by
    rw [hagree.self, takesOut, reaches, hreach, condemns, hverdict]
    simp [hv]
  have hinner : p.reachesUnder (.node r k sp ks :: above) = true := by
    rw [reachesUnder_cons, ← p.condemns_way way, condemns, hverdict, hreach]
    simp [hv]
  -- a call to decide about is an expression, so it owns what stands in it
  obtain ⟨rfl, rfl⟩ : r = .expression ∧ k = .call := by
    by_contra hno
    have hcall : (Node.node r k sp ks).isCall = false := by
      simpa [Node.isCall, Node.role, Node.kind] using hno
    rw [p.judge_eq_none (Node.matched?_eq_none hcall)] at hjudge
    simp at hjudge
  have hkids := visitAll_eq_edit hall hinner (fun hsome => by simp [Node.statementAmong?] at hsome)
    0 hagree.kids
  rw [Node.ownerAmong?_cons, if_pos (by rfl)] at hkids
  refine ⟨_, _, ?_, Node.editFrom_eq_node (by simp [Node.wholeWay?]) hsite,
    p.decisions_sitesFrom_of_kept hreach hverdict⟩
  rw [visitKept, hkids]
  · rfl
  · simp

/-- The walk inside parentheses around a call that is kept. -/
lemma splitKept_paren {e : Node} (hkept : p.SplitsKept gone e) :
    p.SplitsKept gone (.node r .paren sp [e]) := by
  intro way above stmt v hreach hstmt hjudge hv hagree
  have hun := Node.matched?_paren p.includes r sp e
  have hsite : gone.contains way = false := by
    rw [hagree.self, takesOut, p.condemns_eq_false hun, Bool.and_false]
  have hinner : p.reachesUnder (.node r .paren sp [e] :: above) = true := by
    rw [p.reachesUnder_cons_of_unmatched hun, hreach]
  obtain ⟨e', vs, hvisit, hedit, hdec⟩ := hkept (way ++ [0]) _ stmt v hinner
    (by rwa [Node.statementAmong?_paren]) (by rwa [Node.peelParens_paren] at hjudge) hv
    fun t ht => hagree.kids t (by simp [Node.sitesOf, ht])
  refine ⟨.node r .paren sp [e'], vs, ?_, ?_, ?_⟩
  · rw [visitKept, hvisit]
  · rw [Node.editFrom_eq_node (by simp [Node.wholeWay?]) hsite]
    simp [Node.editKids, Node.editAll, hedit]
  · rw [p.decisions_sitesFrom_of_unmatched hun]
    simp [Node.sitesOf, hdec]

lemma split_node (ih : ∀ c ∈ ks, p.Splits gone c ∧ p.SplitsKept gone c) :
    p.Splits gone (.node r k sp ks) := by
  intro way above hreach hwhole hagree
  have hall : ∀ c ∈ ks, p.Splits gone c := fun c hc => (ih c hc).1
  cases hmet : p.met? (Node.ownerAmong? above) (.node r k sp ks) with
  | none => exact split_unmet hall hreach hwhole hagree hmet
  | some v =>
      cases r with
      | statement =>
          cases hv : v.keep with
          | false => exact split_statement_gone hreach hagree hmet hv
          | true => exact split_statement_kept (fun c hc => (ih c hc).2) hreach hagree hmet hv
      | expression => exact split_expression hall hreach hwhole hagree hmet
      | _ => simp [met?, Node.role] at hmet

end Node

/-- The walk over any node is to decide about the sites below it and then to
edit it. -/
lemma visit_eq_edit (n : Node) : p.Splits gone n ∧ p.SplitsKept gone n := by
  induction n using Node.ind with
  | habsent =>
      refine ⟨fun way above _ _ _ => ?_, fun way above stmt v _ _ hjudge _ _ => ?_⟩
      · simp [visit, Node.editFrom, Node.sitesFrom]
      · rw [p.judge_eq_none (Node.matched?_eq_none rfl)] at hjudge
        simp at hjudge
  | hnode r k sp ks ih =>
      refine ⟨split_node ih, ?_⟩
      cases hp : (Node.node r k sp ks).isParen with
      | false => exact splitKept_call (fun c hc => (ih c hc).1) hp
      | true =>
          obtain ⟨r', s', e, heq⟩ := Node.eq_paren_of_isParen hp
          obtain ⟨rfl, rfl, rfl, rfl⟩ := Node.node.inj heq
          exact splitKept_paren (ih e (by simp)).2

/-- Stripping a tree is to decide about its sites and then to edit it. -/
lemma strip_eq (p : Policy) (m : Node) :
    p.strip m = (m.edit (p.takenOut m), p.decisions m.sites) := by
  have h := (visit_eq_edit m).1 [] [] rfl (by simp [Node.statementAmong?])
    fun s hs => p.contains_takenOut hs
  rw [strip, show (none : Option Extent) = Node.ownerAmong? [] from rfl, h]
  rfl

/-- **Stripping is deciding and then editing.** The tree that stripping leaves is
the given tree, edited at the ways of the calls that are taken out, and the
verdicts are those on the calls of the given tree that lie in no call that is
taken out: one for each site, since the sites run through the nodes of the tree,
no two have the same way, and each stands where its way says. -/
theorem strip_eq_edit (p : Policy) (m : Node) :
    p.strip m = (m.edit (p.takenOut m), p.decisions m.sites)
    ∧ m.sites.map (·.node) = m.preorder
    ∧ (m.sites.map (·.way)).Nodup
    ∧ ∀ s ∈ m.sites, m.at? s.way = some s.node ∧ s.above = (m.along s.way).reverse :=
  ⟨p.strip_eq m, m.map_node_sites, m.nodup_way_sites, fun _ hs => Node.at?_of_mem_sites hs⟩

end Policy

end ConsoleStrip
