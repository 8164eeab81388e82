/-
What stripping leaves, node for node.

* `Policy.matched?_editKids`: editing what is in a node neither makes it a call
  to decide about nor keeps it from being one;
* `Policy.readLeft`: what is read off what is left of the node at a site.
  Nothing is left of a statement that goes, `undefined` is left of any other
  call that goes, and all else is left as it is;
* `Policy.filterMap_strip`: what is read off the tree that stripping leaves is
  read off the given tree, site by site, in their order.
-/
import ConsoleStrip.Proofs.Strip.Edit

namespace ConsoleStrip

/-! ### Editing keeps the calls to decide about -/

namespace Node

/-- The node is the name `console`. -/
def isConsole (n : Node) : Bool := n.role == .expression && n.kind == .ident "console"

/-- The name that a node is as a member. -/
def identName? (n : Node) : Option String :=
  match n.kind with
  | .identName w => some w
  | _ => none

/-- The member that an expression names is told by its kind and by what its
two children are. -/
lemma memberOfConsole?_member (s : Span) (a b : Node) :
    (node .expression .member s [a, b]).memberOfConsole?
      = if a.isConsole then some ⟨b.identName?⟩ else none := by
  unfold memberOfConsole?
  split
  · next heq =>
    obtain ⟨-, -, -, hks⟩ := node.inj heq
    simp only [List.cons.injEq, and_true] at hks
    obtain ⟨rfl, rfl⟩ := hks
    simp only [isConsole, role, kind, beq_self_eq_true, Bool.and_self, if_true, identName?]
    split <;> simp_all
  · next hno =>
    rw [if_neg]
    intro ha
    cases a with
    | absent => simp [isConsole, role] at ha
    | node r k s' ks =>
        simp only [isConsole, role, kind, Bool.and_eq_true, beq_iff_eq] at ha
        obtain ⟨rfl, rfl⟩ := ha
        exact hno _ _ _ _ rfl

lemma memberOfConsole?_eq_none {n : Node}
    (h : ∀ s a b, n ≠ node .expression .member s [a, b]) : n.memberOfConsole? = none := by
  unfold memberOfConsole?
  split
  · exact absurd rfl (h _ _ _)
  · rfl

@[simp] lemma role_undefinedAt (s : Span) : (undefinedAt s).role = .expression := rfl

@[simp] lemma kind_undefinedAt (s : Span) : (undefinedAt s).kind = .ident "undefined" := rfl

@[simp] lemma span_undefinedAt (s : Span) : (undefinedAt s).span = s := rfl

/-- What fills the place of a node after editing. -/
def edited (gone : List (List Nat)) (way : List Nat) (n : Node) : Node :=
  (n.editFrom gone way).getD (emptyAt n.span)

lemma editAll_cons (gone : List (List Nat)) (way : List Nat) (i : Nat) (c : Node) (cs : List Node) :
    editAll gone way i (c :: cs) = c.edited gone (way ++ [i]) :: editAll gone way (i + 1) cs := by
  rw [editAll, edited]

lemma length_editAll (gone : List (List Nat)) (way : List Nat) (ks : List Node) :
    ∀ i, (editAll gone way i ks).length = ks.length := by
  induction ks with
  | nil => simp [editAll]
  | cons c cs ih => intro i; rw [editAll, List.length_cons, List.length_cons, ih]

/-- Parentheses are told by the kind and the number of children. -/
lemma isParen_node (r : Role) (k : Kind) (s : Span) (ks : List Node) :
    (node r k s ks).isParen = (k == .paren && ks.length == 1) := by
  rw [Bool.eq_iff_iff, Bool.and_eq_true, beq_iff_eq, beq_iff_eq, List.length_eq_one_iff]
  constructor
  · intro h
    obtain ⟨r', s', e, heq⟩ := eq_paren_of_isParen h
    obtain ⟨-, rfl, -, rfl⟩ := node.inj heq
    exact ⟨rfl, e, rfl⟩
  · rintro ⟨rfl, e, rfl⟩
    rfl

lemma editKids_eq_editAll {k : Kind} (hk : k ≠ .items) (gone : List (List Nat)) (way : List Nat)
    (ks : List Node) : editKids gone way k ks = editAll gone way 0 ks := by
  rw [editKids, if_neg (by simpa using hk)]

/-- Editing what is in a node neither makes it parentheses nor keeps it from
being some. -/
lemma isParen_editKids (gone : List (List Nat)) (way : List Nat) (r : Role) (k : Kind) (s : Span)
    (ks : List Node) : (node r k s (editKids gone way k ks)).isParen = (node r k s ks).isParen := by
  rw [isParen_node, isParen_node]
  by_cases hk : k = .items
  · subst hk
    rfl
  · rw [editKids_eq_editAll hk, length_editAll]

end Node

namespace Policy

variable {p : Policy} {gone : List (List Nat)} {r : Role} {k : Kind} {sp : Span} {ks : List Node}
  {way : List Nat} {above : List Node}

/-- Only a call is condemned. -/
lemma isCall_of_condemns {s : Site} (h : p.condemns s = true) :
    s.node.role = .expression ∧ s.node.kind = .call := by
  have hcall : s.node.isCall = true := by
    by_contra hno
    have hun : s.node.matched? p.includes = none :=
      Node.matched?_eq_none (Bool.eq_false_iff.mpr hno)
    simp [p.condemns_eq_false hun] at h
  simpa [Node.isCall] using hcall

/-- Only a call is taken out. -/
lemma isCall_of_takesOut {s : Site} (h : p.takesOut s = true) :
    s.node.role = .expression ∧ s.node.kind = .call := by
  rw [takesOut, Bool.and_eq_true] at h
  exact isCall_of_condemns h.2

/-- What fills the place of a node: an empty statement for an expression
statement, `undefined` for a call, and else the node itself, with what is left
of its children. -/
lemma edited_cases (h : p.Agrees gone ((Node.node r k sp ks).sitesFrom way above)) :
    (r = .statement ∧ k = .exprStmt ∧ (Node.node r k sp ks).edited gone way = .emptyAt sp)
    ∨ (r = .expression ∧ k = .call ∧ (Node.node r k sp ks).edited gone way = .undefinedAt sp)
    ∨ (Node.node r k sp ks).edited gone way = .node r k sp (Node.editKids gone way k ks) := by
  rcases Node.editFrom_cases gone way r k sp ks with
    ⟨w, hw, -, hedit⟩ | ⟨-, ⟨hgone, hedit⟩ | ⟨-, hedit⟩⟩
  · obtain ⟨c, hc⟩ := Node.exists_statementCall? hw
    obtain ⟨s, e, heq, -, -⟩ := Node.statementCall?_eq_some hc
    obtain ⟨rfl, rfl, -, -⟩ := Node.node.inj heq
    exact .inl ⟨rfl, rfl, by rw [Node.edited, hedit]; rfl⟩
  · rw [h.self] at hgone
    have hcall := isCall_of_takesOut hgone
    exact .inr (.inl ⟨hcall.1, hcall.2, by rw [Node.edited, hedit]; rfl⟩)
  · exact .inr (.inr (by rw [Node.edited, hedit]; rfl))

lemma isConsole_edited (n : Node) (h : p.Agrees gone (n.sitesFrom way above)) :
    (n.edited gone way).isConsole = n.isConsole := by
  cases n with
  | absent => rfl
  | node r k sp ks =>
      rcases edited_cases h with ⟨rfl, rfl, hedit⟩ | ⟨rfl, rfl, hedit⟩ | hedit
      all_goals rw [hedit]; rfl

lemma identName?_edited (n : Node) (h : p.Agrees gone (n.sitesFrom way above)) :
    (n.edited gone way).identName? = n.identName? := by
  cases n with
  | absent => rfl
  | node r k sp ks =>
      rcases edited_cases h with ⟨rfl, rfl, hedit⟩ | ⟨rfl, rfl, hedit⟩ | hedit
      all_goals rw [hedit]; rfl

/-- Editing what is in an expression that is not in parentheses does not change
the member of `console` that it names. -/
lemma memberOfConsole?_editKids (h : p.Agrees gone ((Node.node r k sp ks).sitesFrom way above)) :
    (Node.node r k sp (Node.editKids gone way k ks)).memberOfConsole?
      = (Node.node r k sp ks).memberOfConsole? := by
  by_cases hmember : ∃ a b, Node.node r k sp ks = .node .expression .member sp [a, b]
  · obtain ⟨a, b, heq⟩ := hmember
    obtain ⟨rfl, rfl, -, rfl⟩ := Node.node.inj heq
    have hkids := h.kids
    simp only [Node.sitesOf, List.append_nil] at hkids
    rw [Node.editKids_eq_editAll (by simp), Node.editAll_cons, Node.editAll_cons,
      Node.editAll, Node.memberOfConsole?_member, Node.memberOfConsole?_member,
      isConsole_edited a fun s hs => hkids s (List.mem_append_left _ hs),
      identName?_edited b fun s hs => hkids s (List.mem_append_right _ hs)]
  · rw [Node.memberOfConsole?_eq_none, Node.memberOfConsole?_eq_none]
    · rintro s a b heq
      obtain ⟨rfl, rfl, rfl, rfl⟩ := Node.node.inj heq
      exact hmember ⟨a, b, rfl⟩
    · rintro s a b heq
      obtain ⟨rfl, rfl, rfl, hks⟩ := Node.node.inj heq
      -- as many children are left as there were
      rw [Node.editKids_eq_editAll (by simp)] at hks
      have hlen : ks.length = 2 := by
        rw [← Node.length_editAll gone way ks 0, hks]
        rfl
      obtain ⟨a', b', rfl⟩ := List.length_eq_two.mp hlen
      exact hmember ⟨a', b', rfl⟩

/-- Editing an expression does not change the member of `console` that it names,
parentheses aside. -/
lemma memberOfConsole?_edited (n : Node) : ∀ way above, p.Agrees gone (n.sitesFrom way above) →
    (n.edited gone way).peelParens.memberOfConsole? = n.peelParens.memberOfConsole? := by
  induction n using Node.ind with
  | habsent => intro way above _; rfl
  | hnode r k sp ks ih =>
      intro way above h
      rcases edited_cases h with ⟨rfl, rfl, hedit⟩ | ⟨rfl, rfl, hedit⟩ | hedit
      · rw [hedit]
        rfl
      · rw [hedit]
        rfl
      · rw [hedit]
        cases hp : (Node.node r k sp ks).isParen with
        | true =>
            obtain ⟨r', s', e, heq⟩ := Node.eq_paren_of_isParen hp
            obtain ⟨rfl, rfl, rfl, rfl⟩ := Node.node.inj heq
            rw [Node.editKids_eq_editAll (by simp), Node.editAll_cons, Node.editAll,
              Node.peelParens_paren, Node.peelParens_paren]
            exact ih e (by simp) _ (.node r .paren sp [e] :: above)
              fun s hs => h.kids s (by simp [Node.sitesOf, hs])
        | false =>
            have hp' : (Node.node r k sp (Node.editKids gone way k ks)).isParen = false := by
              rw [Node.isParen_editKids, hp]
            rw [Node.peelParens_eq_self hp, Node.peelParens_eq_self hp',
              memberOfConsole?_editKids h]

/-- Editing what is in a node neither makes it a call to decide about nor keeps
it from being one. -/
lemma matched?_editKids (h : p.Agrees gone ((Node.node r k sp ks).sitesFrom way above)) :
    (Node.node r k sp (Node.editKids gone way k ks)).matched? p.includes
      = (Node.node r k sp ks).matched? p.includes := by
  cases hcall : (Node.node r k sp ks).isCall with
  | false =>
      have hcall' : (Node.node r k sp (Node.editKids gone way k ks)).isCall = false := hcall
      rw [Node.matched?_eq_none hcall, Node.matched?_eq_none hcall']
  | true =>
      have hk : k = .call := by
        simp only [Node.isCall, Node.kind, Bool.and_eq_true, beq_iff_eq] at hcall
        exact hcall.2
      have hcallee :
          ((Node.node r k sp (Node.editKids gone way k ks)).kid 0).peelParens.memberOfConsole?
            = ((Node.node r k sp ks).kid 0).peelParens.memberOfConsole? := by
        rw [Node.editKids_eq_editAll (by simp [hk])]
        cases ks with
        | nil => rfl
        | cons c cs =>
            rw [Node.editAll_cons]
            exact memberOfConsole?_edited c _ (.node r k sp (c :: cs) :: above)
              fun s hs => h.kids s (by simp [Node.sitesOf, hs])
      have hcall' : (Node.node r k sp (Node.editKids gone way k ks)).isCall = true := hcall
      rw [Node.matched?, Node.matched?, Node.consoleMember?, Node.consoleMember?, hcall, hcall',
        hcallee]

/-! ### What is left, node for node -/

/-- The node of a site is a statement that goes with its call. -/
def losesStatement (p : Policy) (s : Site) : Bool :=
  (s.node.statementCall?.bind (p.judge (some s.node.extent) true)).any (!·.keep)

lemma isExprStmt_of_losesStatement {s : Site} (h : p.losesStatement s = true) :
    s.node.role = .statement ∧ s.node.kind = .exprStmt := by
  cases hcall : s.node.statementCall? with
  | none => simp [losesStatement, hcall] at h
  | some c =>
      obtain ⟨sp, e, heq, -, -⟩ := Node.statementCall?_eq_some hcall
      rw [heq]
      exact ⟨rfl, rfl⟩

/-- What `f` reads off what is left of the node of a site. -/
def readLeft {β : Type} (p : Policy) (f : Node → Option β) (s : Site) : Option β :=
  if !p.reaches s || p.losesStatement s then none
  else if p.condemns s then
    if s.statement?.isSome then none else f (.undefinedAt s.node.span)
  else f s.node

/-- What `f` reads off a node does not depend on what is taken out of the node,
and nothing is read off an empty statement or off parentheses. -/
structure Steady {β : Type} (p : Policy) (gone : List (List Nat)) (f : Node → Option β) : Prop where
  empty : ∀ s, f (.emptyAt s) = none
  paren : ∀ r s e, f (.node r .paren s [e]) = none
  kids : ∀ r k s ks way above, p.Agrees gone ((Node.node r k s ks).sitesFrom way above) →
    f (.node r k s (Node.editKids gone way k ks)) = f (.node r k s ks)

/-- If a node is the whole of a statement and a call, parentheses aside, then
the call is not taken out. -/
def KeepsWhole (gone : List (List Nat)) (way : List Nat) (above : List Node) (n : Node) : Prop :=
  (Node.statementAmong? above).isSome → n.peelParens.isCall = true →
    gone.contains (way ++ n.parenWay) = false

/-- What `f` reads off what is left of a node is what it reads off what is left
at the sites below it. -/
def Reads {β : Type} (p : Policy) (gone : List (List Nat)) (f : Node → Option β) (n : Node) :
    Prop :=
  ∀ way above, p.reachesUnder above = true → p.Agrees gone (n.sitesFrom way above) →
    KeepsWhole gone way above n →
    (Node.preorderList (n.editFrom gone way).toList).filterMap f
      = (n.sitesFrom way above).filterMap (p.readLeft f)

section Reads

variable {β : Type} {f : Node → Option β}

lemma readLeft_of_unreached {s : Site} (h : p.reaches s = false) : p.readLeft f s = none := by
  simp [readLeft, h]

lemma filterMap_readLeft_sitesOf {i : Nat} (h : p.reachesUnder above = false) :
    (Node.sitesOf way above i ks).filterMap (p.readLeft f) = [] := by
  rw [List.filterMap_eq_nil_iff]
  intro s hs
  exact readLeft_of_unreached (p.reachesUnder_of_suffix (Node.above_of_mem_sitesOf hs) h)

lemma readLeft_paren (hf : p.Steady gone f) {s : Site} (h : s.node.isParen = true) :
    p.readLeft f s = none := by
  obtain ⟨r, sp, e, heq⟩ := Node.eq_paren_of_isParen h
  have hun : p.condemns s = false := p.condemns_eq_false (by rw [heq]; exact Node.matched?_paren ..)
  simp [readLeft, hun, heq, hf.paren]

/-- What is read off what fills the place of a node is read off what is left of
it. -/
lemma filterMap_edited (hf : p.Steady gone f) (n : Node) :
    (n.edited gone way).preorder.filterMap f
      = (Node.preorderList (n.editFrom gone way).toList).filterMap f := by
  rw [Node.edited]
  cases n.editFrom gone way with
  | some m => simp [Node.preorderList]
  | none =>
      simp only [Option.getD_none, Option.toList_none, Node.preorderList, List.filterMap_nil]
      rw [Node.emptyAt, Node.stmt, Node.preorder, List.filterMap_cons,
        show f (.node .statement .empty n.span []) = none from hf.empty n.span]
      rfl

lemma preorderList_append (ns ms : List Node) :
    Node.preorderList (ns ++ ms) = Node.preorderList ns ++ Node.preorderList ms := by
  simp only [Node.preorderList_eq_flatMap, List.flatMap_append]

/-- The hypotheses about children pass to a child and to those after it. -/
lemma filterMap_editKids (hf : p.Steady gone f) (hall : ∀ c ∈ ks, p.Reads gone f c)
    (hreach : p.reachesUnder above = true) (k : Kind) :
    ∀ i, p.Agrees gone (Node.sitesOf way above i ks) →
      (∀ j, ∀ c : Node, ks[j]? = some c → KeepsWhole gone (way ++ [i + j]) above c) →
      (Node.preorderList (if k == .items then Node.editItems gone way i ks
          else Node.editAll gone way i ks)).filterMap f
        = (Node.sitesOf way above i ks).filterMap (p.readLeft f) := by
  induction ks with
  | nil => intro i _ _; split <;> rfl
  | cons c cs ih =>
      intro i hagree hwhole
      rw [Node.sitesOf] at hagree
      have hc := hall c (by simp) (way ++ [i]) above hreach
        (fun s hs => hagree s (List.mem_append_left _ hs)) (hwhole 0 c rfl)
      have hcs := ih (fun d hd => hall d (by simp [hd])) (i + 1)
        (fun s hs => hagree s (List.mem_append_right _ hs)) (fun j d hd => by
          rw [show i + 1 + j = i + (j + 1) by omega]
          exact hwhole (j + 1) d (by simpa using hd))
      rw [Node.sitesOf, List.filterMap_append, ← hc, ← hcs]
      split
      · rw [Node.editItems, preorderList_append, List.filterMap_append]
      · rw [Node.editAll_cons, Node.preorderList, List.filterMap_append, filterMap_edited hf]

/-- A call that is taken out leaves `undefined` to read, or nothing if it was
the whole of a statement. -/
lemma filterMap_readLeft_gone (h : p.takesOut ⟨way, above, .node r k sp ks⟩ = true) :
    ((Node.node r k sp ks).sitesFrom way above).filterMap (p.readLeft f)
      = if (Node.statementAmong? above).isSome then [] else (f (.undefinedAt sp)).toList := by
  have hcall : (Node.node r k sp ks).statementCall? = none := by
    obtain ⟨hrole, -⟩ := isCall_of_takesOut h
    rw [show r = .expression from hrole]
    rfl
  rw [takesOut, Bool.and_eq_true] at h
  obtain ⟨hreach, hcond⟩ := h
  have hinner : p.reachesUnder (.node r k sp ks :: above) = false := by
    rw [reachesUnder_cons, ← p.condemns_way way, hcond]
    rfl
  have hself : p.readLeft f ⟨way, above, .node r k sp ks⟩
      = if (Node.statementAmong? above).isSome then none else f (.undefinedAt sp) := by
    rw [readLeft, hreach, hcond, losesStatement, hcall]
    rfl
  rw [Node.sitesFrom, List.filterMap_cons, filterMap_readLeft_sitesOf hinner, hself]
  split_ifs
  · rfl
  · cases f (.undefinedAt sp) <;> rfl

/-- A statement whose call is taken out goes with it. -/
lemma losesStatement_eq_true {n : Node} {w : List Nat} (hreach : p.reachesUnder above = true)
    (hagree : p.Agrees gone (n.sitesFrom way above)) (hw : n.wholeWay? = some w)
    (hgone : gone.contains (way ++ w) = true) : p.losesStatement ⟨way, above, n⟩ = true := by
  obtain ⟨c, hcall⟩ := Node.exists_statementCall? hw
  obtain ⟨w', outer, inner, hw', hsites, -, hreached, -, hverdict⟩ :=
    exists_wholeSite way hcall hreach
  obtain rfl : w' = w := by rw [hw'] at hw; exact Option.some.inj hw
  rw [hagree _ (mem_wholeSite hcall hsites), takesOut, Bool.and_eq_true, condemns,
    hverdict] at hgone
  simpa [losesStatement, hcall] using hgone.2

/-- A statement that goes with its call leaves nothing to read. -/
lemma reads_statement_gone (hf : p.Steady gone f) {n : Node} {w : List Nat}
    (hreach : p.reachesUnder above = true) (hagree : p.Agrees gone (n.sitesFrom way above))
    (hw : n.wholeWay? = some w) (hgone : gone.contains (way ++ w) = true) :
    (n.sitesFrom way above).filterMap (p.readLeft f) = [] := by
  obtain ⟨c, hcall⟩ := Node.exists_statementCall? hw
  obtain ⟨w', outer, inner, hw', hsites, houter, hreached, hstmt, hverdict⟩ :=
    exists_wholeSite way hcall hreach
  obtain rfl : w' = w := by rw [hw'] at hw; exact Option.some.inj hw
  have htakes : p.takesOut ⟨way ++ w', inner, c⟩ = true := by
    rw [← hagree _ (mem_wholeSite hcall hsites)]
    exact hgone
  have hfirst : p.readLeft f ⟨way, above, n⟩ = none := by
    rw [readLeft, losesStatement_eq_true hreach hagree hw hgone, Bool.or_true, if_pos rfl]
  have houter' : outer.filterMap (p.readLeft f) = [] :=
    List.filterMap_eq_nil_iff.mpr fun s hs => readLeft_paren hf (houter s hs)
  rw [hsites, List.filterMap_append, List.filterMap_cons, hfirst, houter']
  cases c with
  | absent => rfl
  | node r' k' s' ks' => rw [filterMap_readLeft_gone htakes, hstmt]; rfl

/-- Whether a statement goes is told by the way to its call. -/
lemma losesStatement_eq_false (hreach : p.reachesUnder above = true)
    (hagree : p.Agrees gone ((Node.node r k sp ks).sitesFrom way above))
    (hstays : ∀ w, (Node.node r k sp ks).wholeWay? = some w → gone.contains (way ++ w) = false) :
    p.losesStatement ⟨way, above, .node r k sp ks⟩ = false := by
  cases hcall : (Node.node r k sp ks).statementCall? with
  | none => simp [losesStatement, hcall]
  | some c =>
      obtain ⟨w, outer, inner, hw, hsites, -, hreached, -, hverdict⟩ :=
        exists_wholeSite way hcall hreach
      have htakes : p.takesOut ⟨way ++ w, inner, c⟩ = false := by
        rw [← hagree _ (mem_wholeSite hcall hsites)]
        exact hstays w hw
      rw [takesOut, reaches, hreached, Bool.true_and, condemns, hverdict] at htakes
      simpa [losesStatement, hcall] using htakes

/-- The child that is the whole of a node is the whole of what the node is the
whole of, or of the node itself, if that is a statement that stays. -/
lemma keepsWhole_kids (hwhole : KeepsWhole gone way above (.node r k sp ks))
    (hstays : ∀ w, (Node.node r k sp ks).wholeWay? = some w → gone.contains (way ++ w) = false) :
    ∀ j, ∀ c : Node, ks[j]? = some c →
      KeepsWhole gone (way ++ [0 + j]) (.node r k sp ks :: above) c := by
  intro j c hc hsome hcall
  obtain ⟨stmt, hstmt⟩ := Option.isSome_iff_exists.mp hsome
  cases hp : (Node.node r k sp ks).isParen with
  | true =>
      obtain ⟨r', s', e, heq⟩ := Node.eq_paren_of_isParen hp
      obtain ⟨rfl, rfl, rfl, rfl⟩ := Node.node.inj heq
      rw [Node.statementAmong?_paren] at hsome
      obtain ⟨rfl, rfl⟩ : j = 0 ∧ e = c := by simpa [List.getElem?_singleton] using hc
      simpa using hwhole hsome (by simpa using hcall)
  | false =>
      obtain ⟨-, s', e, heq⟩ := Node.statementAmong?_cons_eq_some hstmt hp
      obtain ⟨rfl, rfl, rfl, rfl⟩ := Node.node.inj heq
      obtain ⟨rfl, rfl⟩ : j = 0 ∧ e = c := by simpa [List.getElem?_singleton] using hc
      simpa using hstays (0 :: e.parenWay) (by simp [Node.wholeWay?, hcall])

/-- A node that stays is read as before, and then its children. -/
lemma reads_stays (hf : p.Steady gone f) (hall : ∀ c ∈ ks, p.Reads gone f c)
    (hreach : p.reachesUnder above = true)
    (hagree : p.Agrees gone ((Node.node r k sp ks).sitesFrom way above))
    (hwhole : KeepsWhole gone way above (.node r k sp ks))
    (hstays : ∀ w, (Node.node r k sp ks).wholeWay? = some w → gone.contains (way ++ w) = false)
    (hsite : gone.contains way = false) :
    (Node.preorder (.node r k sp (Node.editKids gone way k ks))).filterMap f
      = ((Node.node r k sp ks).sitesFrom way above).filterMap (p.readLeft f) := by
  have hcond : p.condemns ⟨way, above, .node r k sp ks⟩ = false := by
    rw [hagree.self, takesOut, reaches, hreach, Bool.true_and] at hsite
    exact hsite
  have hinner : p.reachesUnder (.node r k sp ks :: above) = true := by
    rw [reachesUnder_cons, ← p.condemns_way way, hcond, hreach]
    rfl
  have hself : p.readLeft f ⟨way, above, .node r k sp ks⟩
      = f (.node r k sp (Node.editKids gone way k ks)) := by
    rw [readLeft, reaches, hreach, losesStatement_eq_false hreach hagree hstays, hcond,
      hf.kids r k sp ks way above hagree]
    rfl
  have hkids := filterMap_editKids hf hall hinner k 0 hagree.kids (keepsWhole_kids hwhole hstays)
  rw [Node.preorder, Node.sitesFrom, List.filterMap_cons, List.filterMap_cons, hself, ← hkids]
  rfl

/-- What is left of any node is read at the sites below it. -/
lemma reads_of_steady (hf : p.Steady gone f) (n : Node) : p.Reads gone f n := by
  induction n using Node.ind with
  | habsent => intro way above _ _ _; rfl
  | hnode r k sp ks ih =>
      intro way above hreach hagree hwhole
      rcases Node.editFrom_cases gone way r k sp ks with
        ⟨w, hw, hgone, hedit⟩ | ⟨hstays, ⟨hsite, hedit⟩ | ⟨hsite, hedit⟩⟩
      · rw [hedit, reads_statement_gone hf hreach hagree hw hgone]
        rfl
      · have htakes := hagree.self ▸ hsite
        have hcall : (Node.node r k sp ks).isCall = true := by
          simpa [Node.isCall] using isCall_of_takesOut htakes
        have hp := Node.isParen_eq_false_of_isCall hcall
        -- the whole of a statement would have gone with it
        have hnone : (Node.statementAmong? above).isSome = false := by
          by_contra hsome
          have hkept := hwhole (Bool.not_eq_false _ ▸ hsome) (by rwa [Node.peelParens_eq_self hp])
          rw [Node.parenWay_eq_nil hp, List.append_nil, hsite] at hkept
          simp at hkept
        rw [hedit, filterMap_readLeft_gone htakes, hnone]
        change [Node.undefinedAt sp].filterMap f = _
        rw [List.filterMap_cons]
        cases f (.undefinedAt sp) <;> rfl
      · rw [hedit, ← reads_stays hf ih hreach hagree hwhole hstays hsite]
        simp [Node.preorderList]

end Reads

/-- What is read off the tree that stripping leaves is read off the given tree,
site by site. -/
lemma filterMap_strip {β : Type} {m : Node} {f : Node → Option β} (hf : p.Steady (p.takenOut m) f) :
    (p.strip m).1.preorder.filterMap f = m.sites.filterMap (p.readLeft f) := by
  rw [p.strip_eq, Node.edit, ← Node.edited, filterMap_edited hf]
  exact reads_of_steady hf m [] [] rfl (fun s hs => p.contains_takenOut hs)
    (by simp [KeepsWhole, Node.statementAmong?])

end Policy

end ConsoleStrip
