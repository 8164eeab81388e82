/-
What stripping leaves, counted.

* `Policy.removes`, `Policy.replaces`: the site is that of a statement that goes
  with its call, or of a call that `undefined` stands for;
* `Policy.countP_removes`: as many verdicts take a statement out as there are
  sites of statements that go. The induction is over the tree, with one more
  statement due at a node that is the whole of one;
* `Policy.strip_accounts`: the account of a whole tree: the calls, the statements
  and the `undefined`s that are left, and the events that are logged.
-/
import ConsoleStrip.Proofs.Strip.Left
import ConsoleStrip.Transform

namespace ConsoleStrip

/-! ### Statements that go -/

/-- The verdict takes a statement out. -/
def Verdict.isRemoval (v : Verdict) : Bool := !v.keep && v.isStatement

namespace Policy

/-- The node of a site is a statement that is taken out with its call. -/
def removes (p : Policy) (s : Site) : Bool := p.reaches s && p.losesStatement s

/-- A statement is taken out that the node, in `above`, is the whole of,
parentheses aside. -/
def owes (p : Policy) (above : List Node) (n : Node) : Bool :=
  p.reachesUnder above
    && (Node.statementAmong? above).any fun stmt =>
      (p.judge (some stmt.extent) true n.peelParens).any (!·.keep)

variable {p : Policy} {r : Role} {k : Kind} {sp : Span} {ks : List Node} {way : List Nat}
  {above : List Node}

lemma owes_of_not_isCall {n : Node} (h : n.peelParens.isCall = false) :
    p.owes above n = false := by
  have hjudge : ∀ stmt : Node, p.judge (some stmt.extent) true n.peelParens = none :=
    fun _ => p.judge_eq_none (Node.matched?_eq_none h)
  cases hstmt : Node.statementAmong? above <;> simp [owes, hstmt, hjudge]

lemma isStatement_of_judge {owner : Option Extent} {whole : Bool} {n : Node} {v : Verdict}
    (h : p.judge owner whole n = some v) : v.isStatement = whole := by
  rw [judge, Option.map_eq_some_iff] at h
  obtain ⟨m, -, rfl⟩ := h
  rfl

/-- A node that is not in parentheses takes out a statement by its own verdict
if it is the whole of the statement. -/
lemma countP_decisions_singleton {n : Node} (hp : n.isParen = false) :
    (p.decisions [⟨way, above, n⟩]).countP Verdict.isRemoval = (p.owes above n).toNat := by
  rw [decisions_cons, decisions_nil, List.append_nil, owes, Node.peelParens_eq_self hp, reaches]
  cases hreach : p.reachesUnder above with
  | false => rfl
  | true =>
      cases hstmt : Node.statementAmong? above with
      | none =>
          cases hverdict : p.verdict? ⟨way, above, n⟩ with
          | none => rfl
          | some v =>
              have hwhole := isStatement_of_judge hverdict
              simp [Site.statement?, hstmt] at hwhole
              simp [Verdict.isRemoval, hwhole]
      | some stmt =>
          have hjudge : p.verdict? ⟨way, above, n⟩ = p.judge (some stmt.extent) true n := by
            simp [verdict?, Site.owner?, Site.statement?, hstmt]
          rw [hjudge]
          cases hverdict : p.judge (some stmt.extent) true n with
          | none => simp [hverdict]
          | some v =>
              have hwhole := isStatement_of_judge hverdict
              cases hkeep : v.keep <;> simp [hverdict, hkeep, Verdict.isRemoval, hwhole]

/-- What is in parentheses is the whole of the same statement. -/
lemma owes_paren (e : Node) :
    p.owes (.node r .paren sp [e] :: above) e = p.owes above (.node r .paren sp [e]) := by
  have hun := Node.matched?_paren p.includes r sp e
  rw [owes, owes, p.reachesUnder_cons_of_unmatched hun, Node.statementAmong?_paren,
    Node.peelParens_paren]

/-- An expression statement is taken out for the expression in it. -/
lemma owes_statement (e : Node) : p.owes (.node .statement .exprStmt sp [e] :: above) e
    = p.removes ⟨way, above, .node .statement .exprStmt sp [e]⟩ := by
  have hun : (Node.node .statement .exprStmt sp [e]).matched? p.includes = none :=
    Node.matched?_eq_none (by simp [Node.isCall, Node.role])
  cases hcall : e.peelParens.isCall with
  | false => simp [owes_of_not_isCall hcall, removes, losesStatement, Node.statementCall?, hcall]
  | true =>
      have hreach := p.reachesUnder_cons_of_unmatched hun above
      simp [owes, removes, reaches, losesStatement, Node.statementCall?, Node.statementAmong?,
        hcall, hreach]

/-- A node that is neither in parentheses nor an expression statement takes out
no statement around its children. -/
lemma owes_of_statementAmong?_none {ks : List Node} (h : Node.statementAmong? above = none) :
    ks.countP (p.owes above) = 0 :=
  List.countP_eq_zero.mpr fun c _ => by simp [owes, h]

/-- The statements that go by the verdict on a node and on the wholes of its
children: the one that the node is, and the one that it is the whole of. -/
lemma countP_owes (p : Policy) (r : Role) (k : Kind) (sp : Span) (ks : List Node) (way : List Nat)
    (above : List Node) :
    (p.decisions [⟨way, above, .node r k sp ks⟩]).countP Verdict.isRemoval
        + ks.countP (p.owes (.node r k sp ks :: above))
      = (p.removes ⟨way, above, .node r k sp ks⟩).toNat
        + (p.owes above (.node r k sp ks)).toNat := by
  cases hp : (Node.node r k sp ks).isParen with
  | true =>
      obtain ⟨r', s', e, heq⟩ := Node.eq_paren_of_isParen hp
      obtain ⟨rfl, rfl, rfl, rfl⟩ := Node.node.inj heq
      have hun := Node.matched?_paren p.includes r sp e
      have hremoves : p.removes ⟨way, above, .node r .paren sp [e]⟩ = false := by
        simp [removes, losesStatement, Node.statementCall?]
      rw [p.decisions_eq_nil_of_unmatched (by simpa using p.verdict?_eq_none hun), hremoves,
        ← owes_paren]
      cases h : p.owes (.node r .paren sp [e] :: above) e <;> simp [h]
  | false =>
      rw [countP_decisions_singleton hp, Nat.add_comm]
      congr 1
      by_cases hstmt : ∃ s e, Node.node r k sp ks = .node .statement .exprStmt s [e]
      · obtain ⟨s', e, heq⟩ := hstmt
        obtain ⟨rfl, rfl, rfl, rfl⟩ := Node.node.inj heq
        rw [← owes_statement]
        cases h : p.owes (.node .statement .exprStmt sp [e] :: above) e <;> simp [h]
      · have hnone : Node.statementAmong? (.node r k sp ks :: above) = none := by
          by_contra hsome
          obtain ⟨stmt, hsome⟩ := Option.ne_none_iff_exists'.mp hsome
          exact hstmt (Node.statementAmong?_cons_eq_some hsome hp).2
        have hcall : (Node.node r k sp ks).statementCall? = none := by
          by_contra hsome
          obtain ⟨c, hsome⟩ := Option.ne_none_iff_exists'.mp hsome
          obtain ⟨s, e, heq, -⟩ := Node.statementCall?_eq_some hsome
          exact hstmt ⟨s, e, heq⟩
        rw [owes_of_statementAmong?_none hnone]
        simp [removes, losesStatement, hcall]

/-- Below a node as many statements are taken out by a verdict as are sites of
statements that go, and one more if the node is the whole of one. -/
lemma countP_decisions_sitesFrom (n : Node) : ∀ way above,
    (p.decisions (n.sitesFrom way above)).countP Verdict.isRemoval
      = (n.sitesFrom way above).countP p.removes + (p.owes above n).toNat := by
  induction n using Node.ind with
  | habsent =>
      intro way above
      rw [owes_of_not_isCall (by rfl)]
      rfl
  | hnode r k sp ks ih =>
      -- the children, from any number on
      have key : ∀ ks : List Node, (∀ c ∈ ks, ∀ way above,
          (p.decisions (c.sitesFrom way above)).countP Verdict.isRemoval
            = (c.sitesFrom way above).countP p.removes + (p.owes above c).toNat) →
          ∀ way above i, (p.decisions (Node.sitesOf way above i ks)).countP Verdict.isRemoval
            = (Node.sitesOf way above i ks).countP p.removes + ks.countP (p.owes above) := by
        intro ks
        induction ks with
        | nil => intro _ way above i; rfl
        | cons c cs ihcs =>
            intro hall way above i
            rw [Node.sitesOf, decisions_append, List.countP_append, List.countP_append,
              hall c (by simp), ihcs (fun d hd => hall d (by simp [hd])), List.countP_cons]
            cases p.owes above c <;> simp <;> omega
      intro way above
      have hown := p.countP_owes r k sp ks way above
      have hself : [⟨way, above, .node r k sp ks⟩].countP p.removes
          = (p.removes ⟨way, above, .node r k sp ks⟩).toNat := by
        cases h : p.removes ⟨way, above, .node r k sp ks⟩ <;> simp [h]
      rw [Node.sitesFrom, ← List.singleton_append, decisions_append, List.countP_append,
        List.countP_append, key ks ih, hself]
      omega

end Policy

/-! ### The account -/

namespace Node

/-- Where a node stands that is called as a member of `console`, and the
member. -/
def calledAs? (includes : List String) (n : Node) : Option (Span × ConsoleMember) :=
  (n.matched? includes).map fun c => (n.span, c)

/-- Where a node stands that fills a given place and is of a given kind. -/
def spanAs? (r : Role) (k : Kind) (n : Node) : Option Span :=
  if n.role == r && n.kind == k then some n.span else none

end Node

/-- The event says that a call was decided about. -/
def Event.reportsCall (e : Event) : Bool := e.level == .debug && e.message == "console call"

/-- The event says that a call was kept. -/
def Event.reportsKept (e : Event) : Bool :=
  e.reportsCall && e.fields.contains ("keep", .flag true)

namespace Rewritten

/-- One event is logged for each verdict. -/
lemma countP_reportsCall (r : Rewritten) :
    r.events.countP Event.reportsCall = r.verdicts.length := by
  rw [events, List.countP_append, List.countP_map, List.countP_eq_length.mpr]
  · rfl
  · intro v _
    rfl

lemma countP_reportsKept (r : Rewritten) :
    r.events.countP Event.reportsKept = r.verdicts.countP (·.keep) := by
  rw [events, List.countP_append, List.countP_map]
  refine Nat.add_right_cancel_iff.mpr (List.countP_congr fun v _ => ?_)
  cases hkeep : v.keep <;> simp [Event.reportsKept, Event.reportsCall, Event.level, Event.message,
    Event.fields, hkeep]

end Rewritten

namespace Summary

/-- Every verdict is counted once. -/
lemma ofVerdicts_total (vs : List Verdict) :
    (ofVerdicts vs).removed + (ofVerdicts vs).replaced + (ofVerdicts vs).retained = vs.length := by
  induction vs with
  | nil => rfl
  | cons v vs ih =>
      simp only [ofVerdicts, List.countP_cons, List.length_cons] at ih ⊢
      cases v.keep <;> cases v.isStatement <;> simp <;> omega

end Summary

namespace Policy

/-- The node of a site is a call that is replaced by `undefined`. -/
def replaces (p : Policy) (s : Site) : Bool := p.takesOut s && !s.statement?.isSome

variable {p : Policy} {gone : List (List Nat)}

lemma steady_calledAs? : p.Steady gone (Node.calledAs? p.includes) where
  empty _ := rfl
  paren r s e := by rw [Node.calledAs?, Node.matched?_paren]; rfl
  kids r k s ks way above h := by rw [Node.calledAs?, Node.calledAs?, matched?_editKids h]; rfl

lemma steady_spanAs? {r : Role} {k : Kind} (hempty : k ≠ .empty) (hparen : k ≠ .paren) :
    p.Steady gone (Node.spanAs? r k) where
  empty s := by simp [Node.spanAs?, Node.emptyAt, Node.stmt, Node.kind, hempty.symm]
  paren r' s e := by simp [Node.spanAs?, Node.kind, hparen.symm]
  kids _ _ _ _ _ _ _ := rfl

/-- What is read off a call that is left is what its verdict says of it. -/
lemma readLeft_calledAs? (s : Site) :
    p.readLeft (Node.calledAs? p.includes) s
      = ((if p.reaches s then p.verdict? s else none).filter (·.keep)).map
          fun v => (v.call, v.member) := by
  rw [readLeft]
  cases hreach : p.reaches s with
  | false => rfl
  | true =>
      cases hmatch : s.node.matched? p.includes with
      | none =>
          rw [p.verdict?_eq_none hmatch, p.condemns_eq_false hmatch]
          simp [Node.calledAs?, hmatch]
      | some c =>
          have hverdict : p.verdict? s = some ⟨s.node.span, c, s.statement?.isSome,
              p.markers.keeps (p.index.collect s.node s.owner?)⟩ := by
            rw [verdict?, judge, hmatch]
            rfl
          -- a call is no statement that could go
          have hloses : p.losesStatement s = false := by
            by_contra hloses
            have hstmt := isExprStmt_of_losesStatement (Bool.not_eq_false _ ▸ hloses)
            rw [Node.matched?_eq_none (by simp [Node.isCall, hstmt])] at hmatch
            simp at hmatch
          rw [hloses, condemns, hverdict]
          cases hkeep : p.markers.keeps (p.index.collect s.node s.owner?) with
          | false => simp [Node.calledAs?, Node.matched?, Node.consoleMember?, Node.isCall]
          | true => simp [Node.calledAs?, hmatch]

lemma readLeft_exprStmt (s : Site) :
    p.readLeft (Node.spanAs? .statement .exprStmt) s
      = if p.reaches s && !p.removes s then s.node.spanAs? .statement .exprStmt else none := by
  rw [readLeft, removes]
  cases hreach : p.reaches s with
  | false => rfl
  | true =>
      cases hloses : p.losesStatement s with
      | true => rfl
      | false =>
          cases hcond : p.condemns s with
          | false => rfl
          | true =>
              obtain ⟨hrole, -⟩ := isCall_of_condemns hcond
              simp [Node.spanAs?, hrole]

lemma readLeft_undefined (s : Site) :
    p.readLeft (Node.spanAs? .expression (.ident "undefined")) s
      = if p.replaces s then some s.node.span
        else if p.reaches s then s.node.spanAs? .expression (.ident "undefined") else none := by
  rw [readLeft, replaces, takesOut]
  cases hreach : p.reaches s with
  | false => rfl
  | true =>
      cases hcond : p.condemns s with
      | true =>
          obtain ⟨hrole, hkind⟩ := isCall_of_condemns hcond
          have hloses : p.losesStatement s = false := by
            by_contra hloses
            simp [(isExprStmt_of_losesStatement (Bool.not_eq_false _ ▸ hloses)).1] at hrole
          rw [hloses]
          cases s.statement?.isSome <;> simp [Node.spanAs?, hrole, hkind]
      | false =>
          cases hloses : p.losesStatement s with
          | false => simp
          | true =>
              obtain ⟨hrole, -⟩ := isExprStmt_of_losesStatement hloses
              simp [Node.spanAs?, hrole]

/-- The calls to decide about that are left are those kept. -/
lemma filterMap_calledAs?_strip (p : Policy) (m : Node) :
    (p.strip m).1.preorder.filterMap (Node.calledAs? p.includes)
      = ((p.strip m).2.filter (·.keep)).map fun v => (v.call, v.member) := by
  rw [filterMap_strip steady_calledAs?, p.strip_eq, decisions, List.filter_filterMap,
    List.map_filterMap]
  exact List.filterMap_congr fun s _ => readLeft_calledAs? s

/-- As many calls to decide about are left as are retained. -/
lemma countP_matched_strip (p : Policy) (m : Node) :
    (p.strip m).1.preorder.countP (fun n => (n.matched? p.includes).isSome)
      = (Summary.ofVerdicts (p.strip m).2).retained := by
  have hlength := congrArg List.length (p.filterMap_calledAs?_strip m)
  rw [List.length_filterMap_eq_countP, List.length_map, ← List.countP_eq_length_filter] at hlength
  simp only [Node.calledAs?, Option.isSome_map] at hlength
  exact hlength

/-- The verdicts that take a statement out are as many as the statements that
go. -/
lemma countP_removes (p : Policy) (m : Node) :
    (p.decisions m.sites).countP Verdict.isRemoval = m.sites.countP p.removes := by
  have hnone : p.owes [] m = false := by simp [owes, Node.statementAmong?]
  rw [Node.sites, countP_decisions_sitesFrom, hnone]
  rfl

/-- The verdicts that replace a call are those at the sites of such calls. -/
lemma countP_replaces (p : Policy) (ss : List Site) :
    (p.decisions ss).countP (fun v => !v.keep && !v.isStatement) = ss.countP p.replaces := by
  rw [decisions, List.countP_filterMap]
  refine List.countP_congr fun s _ => ?_
  rw [replaces, takesOut, condemns]
  cases p.reaches s with
  | false => rfl
  | true =>
      cases hverdict : p.verdict? s with
      | none => rfl
      | some v => simp [isStatement_of_judge hverdict]

/-- **Every call is accounted for.** The calls to decide about that are left are
those kept, in their order. The expression statements that are left are those in
no call that goes, less one for each statement counted as removed, and the
`undefined`s that are left are those in no call that goes, with one more for
each call counted as replaced. One event is logged for each call that is
counted, and says of those retained that they are kept. -/
theorem strip_accounts (p : Policy) (m : Node) (path : String) (src : Source) (a : Attached) :
    let out := (p.strip m).1
    let r : Rewritten := ⟨path, src, out, a, (p.strip m).2⟩
    out.preorder.filterMap (Node.calledAs? p.includes)
        = (r.verdicts.filter (·.keep)).map (fun v => (v.call, v.member))
    ∧ out.preorder.countP (fun n => (n.matched? p.includes).isSome) = r.summary.retained
    ∧ out.preorder.filterMap (Node.spanAs? .statement .exprStmt)
        = m.sites.filterMap (fun s =>
            if p.reaches s && !p.removes s then s.node.spanAs? .statement .exprStmt else none)
    ∧ m.sites.countP p.removes = r.summary.removed
    ∧ out.preorder.filterMap (Node.spanAs? .expression (.ident "undefined"))
        = m.sites.filterMap (fun s =>
            if p.replaces s then some s.node.span
            else if p.reaches s then s.node.spanAs? .expression (.ident "undefined") else none)
    ∧ m.sites.countP p.replaces = r.summary.replaced
    ∧ r.events.countP Event.reportsCall
        = r.summary.removed + r.summary.replaced + r.summary.retained
    ∧ r.events.countP Event.reportsKept = r.summary.retained := by
  intro out r
  have hverdicts : r.verdicts = p.decisions m.sites := congrArg Prod.snd (p.strip_eq m)
  refine ⟨p.filterMap_calledAs?_strip m, p.countP_matched_strip m, ?_, ?_, ?_, ?_, ?_,
    r.countP_reportsKept⟩
  · rw [filterMap_strip (steady_spanAs? (by simp) (by simp))]
    exact List.filterMap_congr fun s _ => readLeft_exprStmt s
  · rw [Rewritten.summary, Summary.ofVerdicts, hverdicts, ← p.countP_removes]
    rfl
  · rw [filterMap_strip (steady_spanAs? (by simp) (by simp))]
    exact List.filterMap_congr fun s _ => readLeft_undefined s
  · rw [Rewritten.summary, Summary.ofVerdicts, hverdicts, p.countP_replaces]
  · rw [r.countP_reportsCall, Rewritten.summary, Summary.ofVerdicts_total]

end Policy

end ConsoleStrip
