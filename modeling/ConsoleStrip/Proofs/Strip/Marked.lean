/-
Markers keep the statements that they stand beside.

* `CommentIndex.reachable`: all comments that can speak for a call that is a
  whole statement: those in a slot of the call or in one of the statement.
  `mem_collect_of_leading` and `mem_collect_of_trailing` say when those around
  the statement do speak for the call, `mem_reachable_of_mem_collect` that no
  others do;
* `Policy.CallStatement`: a statement of a tree that is a call to decide about,
  with the call at its own site;
* `Options.rewrite_marked`: a statement with a marker right before or right
  after it stays, and one with no marker within reach goes.
-/
import ConsoleStrip.Proofs.Comment.Run
import ConsoleStrip.Proofs.Strip.Left

namespace ConsoleStrip

/-! ### The comments that speak for a statement -/

namespace CommentIndex

variable {idx : CommentIndex} {call : Node} {e : Extent} {c : Comment}

/-- The comments before, after and inside a node. -/
def slots (idx : CommentIndex) (e : Extent) : List Comment :=
  idx.leading e.span.lo ++ idx.trailing e.span.hi ++ idx.interior e

/-- The comments in a slot of a call, of an argument of it, or of the node that
owns it. -/
def reachable (idx : CommentIndex) (call : Node) (e : Extent) : List Comment :=
  idx.slots call.extent ++ call.arguments.flatMap idx.ofArgument ++ idx.slots e

lemma mem_orOwner {own : List Comment} {f : Extent → List Comment}
    (h : c ∈ orOwner own (some e) f) : c ∈ own ∨ c ∈ f e := by
  unfold orOwner at h
  dsimp only at h
  split at h
  · exact .inr h
  · exact .inl h

/-- The owner's comments take the place of the call's if these are the same, or
if there are none. -/
lemma orOwner_eq {own : List Comment} {f : Extent → List Comment} (h : own = f e ∨ own = []) :
    orOwner own (some e) f = f e := by
  unfold orOwner
  dsimp only
  rcases h with rfl | rfl
  · split
    · rfl
    · rfl
  · rfl

lemma mem_collect_of_leading (h : call.lo = e.span.lo ∨ idx.leading call.lo = [])
    (hc : c ∈ idx.leading e.span.lo) : c ∈ idx.collect call (some e) := by
  have hown : orOwner (idx.leading call.extent.span.lo) (some e) (fun e => idx.leading e.span.lo)
      = idx.leading e.span.lo := by
    refine orOwner_eq (h.imp_left fun h => ?_)
    rw [← h]
    rfl
  simp [collect, hown, hc]

lemma mem_collect_of_trailing (h : call.hi = e.span.hi ∨ idx.trailing call.hi = [])
    (hc : c ∈ idx.trailing e.span.hi) : c ∈ idx.collect call (some e) := by
  have hown : orOwner (idx.trailing call.extent.span.hi) (some e) (fun e => idx.trailing e.span.hi)
      = idx.trailing e.span.hi := by
    refine orOwner_eq (h.imp_left fun h => ?_)
    rw [← h]
    rfl
  simp [collect, hown, hc]

/-- The slot before a position is empty if no comment stands right before it. -/
lemma leading_eq_nil (h : Comment.InOrder idx.comments) {pos : Nat}
    (hnone : ∀ d ∈ idx.comments, ¬ idx.Clear isBlank d.span.hi pos) : idx.leading pos = [] := by
  refine List.eq_nil_iff_forall_not_mem.mpr fun d hd => ?_
  obtain ⟨hmem, hclear⟩ := (mem_leading h).mp hd
  exact hnone d hmem hclear

lemma trailing_eq_nil (h : Comment.InOrder idx.comments) {pos : Nat}
    (hnone : ∀ d ∈ idx.comments, ¬ idx.Clear isInlineBlank pos d.span.lo) :
    idx.trailing pos = [] := by
  refine List.eq_nil_iff_forall_not_mem.mpr fun d hd => ?_
  obtain ⟨hmem, hclear⟩ := (mem_trailing h).mp hd
  exact hnone d hmem hclear

/-- Only comments within reach speak for a call. -/
lemma mem_reachable_of_mem_collect (h : c ∈ idx.collect call (some e)) :
    c ∈ idx.reachable call e := by
  simp only [collect, List.mem_append] at h
  simp only [reachable, slots, List.mem_append]
  rcases h with ((h | h) | h) | h
  · rcases mem_orOwner h with h | h <;> tauto
  · rcases mem_orOwner h with h | h <;> tauto
  · rcases mem_orOwner h with h | h <;> tauto
  · tauto

end CommentIndex

/-! ### Call statements -/

namespace Policy

/-- The node of a site is an expression statement whose expression is a call to
decide about, and which lies in no call that goes. -/
structure CallStatement (p : Policy) (m : Node) (s : Site) (sp : Span) (call : Node)
    (member : ConsoleMember) : Prop where
  mem : s ∈ m.sites
  node : s.node = .node .statement .exprStmt sp [call]
  matched : call.matched? p.includes = some member
  reached : p.reaches s = true

/-- The node of a site is found to be a call statement: the statement and the
call stand at given places. -/
def findsCall (p : Policy) (sp callSpan : Span) (member : ConsoleMember) (s : Site) : Bool :=
  p.reaches s
    && match s.node with
      | .node .statement .exprStmt sp' [call] =>
        sp' == sp && call.span == callSpan && call.matched? p.includes == some member
      | _ => false

/-- What is found is a call statement. -/
lemma exists_callStatement {p : Policy} {m : Node} {sp callSpan : Span} {member : ConsoleMember}
    (h : m.sites.any (p.findsCall sp callSpan member) = true) :
    ∃ s call, p.CallStatement m s sp call member ∧ call.span = callSpan := by
  obtain ⟨s, hs, hfound⟩ := List.any_eq_true.mp h
  rw [findsCall, Bool.and_eq_true] at hfound
  obtain ⟨hreach, hnode⟩ := hfound
  split at hnode
  · next sp' call heq =>
    simp only [Bool.and_eq_true, beq_iff_eq] at hnode
    obtain ⟨⟨rfl, hspan⟩, hmatched⟩ := hnode
    exact ⟨s, call, ⟨hs, heq, hmatched, hreach⟩, hspan⟩
  · simp at hnode

namespace CallStatement

variable {p : Policy} {m : Node} {s : Site} {sp : Span} {call : Node} {member : ConsoleMember}

/-- Some comment that speaks for the call of a statement has a marker in it. -/
def keeps (p : Policy) (s : Site) (call : Node) : Bool :=
  p.markers.keeps (p.index.collect call (some s.node.extent))

lemma isCall (h : p.CallStatement m s sp call member) : call.isCall = true := by
  by_contra hno
  have hun := h.matched
  rw [Node.matched?_eq_none (Bool.eq_false_iff.mpr hno)] at hun
  simp at hun

/-- The site of the call. -/
def callSite (s : Site) (call : Node) : Site := ⟨s.way ++ [0], s.node :: s.above, call⟩

lemma callSite_mem (h : p.CallStatement m s sp call member) : callSite s call ∈ m.sites := by
  refine m.sitesFrom_subset [] [] h.mem ?_
  have hcall := Node.mem_sitesFrom_of_isCall h.isCall (s.way ++ [0]) (s.node :: s.above)
  rw [callSite, h.node, Node.sitesFrom, Node.sitesOf]
  rw [h.node] at hcall
  exact List.mem_cons_of_mem _ (List.mem_append_left _ hcall)

lemma verdict?_callSite (h : p.CallStatement m s sp call member) :
    p.verdict? (callSite s call) = some ⟨call.span, member, true, keeps p s call⟩ := by
  have hstmt : (callSite s call).statement? = some s.node := by
    simp [callSite, Site.statement?, h.node, Node.statementAmong?]
  rw [verdict?, Site.owner?, hstmt, judge]
  simp [callSite, h.matched, keeps]

lemma reaches_callSite (h : p.CallStatement m s sp call member) :
    p.reaches (callSite s call) = true := by
  have hun : s.node.matched? p.includes = none :=
    Node.matched?_eq_none (by simp [h.node, Node.isCall, Node.role])
  rw [reaches, callSite, p.reachesUnder_cons_of_unmatched hun]
  exact h.reached

/-- The call of a statement is decided about. -/
lemma verdict_mem (h : p.CallStatement m s sp call member) :
    ⟨call.span, member, true, keeps p s call⟩ ∈ (p.strip m).2 := by
  rw [p.strip_eq, decisions, List.mem_filterMap]
  refine ⟨callSite s call, h.callSite_mem, ?_⟩
  rw [h.reaches_callSite, h.verdict?_callSite]
  rfl

/-- The way to the call of a statement is taken out exactly if the call is not
kept. -/
lemma contains_takenOut_callSite (h : p.CallStatement m s sp call member) :
    (p.takenOut m).contains (s.way ++ [0]) = !keeps p s call := by
  have hcontains := p.contains_takenOut h.callSite_mem
  rw [takesOut, h.reaches_callSite, condemns, h.verdict?_callSite] at hcontains
  exact hcontains

lemma wholeWay? (h : p.CallStatement m s sp call member) : s.node.wholeWay? = some [0] := by
  have hp := Node.isParen_eq_false_of_isCall h.isCall
  simp [h.node, Node.wholeWay?, Node.peelParens_eq_self hp, h.isCall, Node.parenWay_eq_nil hp]

/-- Nothing is left of a statement whose call goes. -/
lemma editFrom_of_gone (h : p.CallStatement m s sp call member)
    (hgone : keeps p s call = false) :
    s.node.editFrom (p.takenOut m) s.way = none := by
  have hway := h.wholeWay?
  have hcontains := h.contains_takenOut_callSite
  rw [hgone] at hcontains
  rw [h.node] at hway ⊢
  exact Node.editFrom_eq_none hway hcontains

/-- A statement whose call is kept is left, with what is left of the call. -/
lemma editFrom_of_kept (h : p.CallStatement m s sp call member)
    (hkept : keeps p s call = true) :
    ∃ call', s.node.editFrom (p.takenOut m) s.way = some (.node .statement .exprStmt sp [call'])
      ∧ call'.span = call.span ∧ call'.matched? p.includes = some member := by
  have hstays : (p.takenOut m).contains (s.way ++ [0]) = false := by
    rw [h.contains_takenOut_callSite, hkept]
    rfl
  have hsite : (p.takenOut m).contains s.way = false := by
    have hun : s.node.matched? p.includes = none :=
      Node.matched?_eq_none (by simp [h.node, Node.isCall, Node.role])
    rw [p.contains_takenOut h.mem, takesOut, p.condemns_eq_false hun, Bool.and_false]
  have hway := h.wholeWay?
  have hagree : p.Agrees (p.takenOut m) (call.sitesFrom (s.way ++ [0]) (s.node :: s.above)) :=
    fun t ht => p.contains_takenOut (m.sitesFrom_subset [] [] h.callSite_mem ht)
  rw [h.node] at hway hagree ⊢
  rw [Node.editFrom_eq_node (by simpa [hway] using hstays) hsite,
    Node.editKids_eq_editAll (by simp), Node.editAll_cons, Node.editAll]
  refine ⟨_, rfl, ?_⟩
  cases call with
  | absent => simpa [Node.isCall, Node.role] using h.isCall
  | node r k sp' ks =>
      obtain ⟨rfl, rfl⟩ : r = .expression ∧ k = .call := by
        simpa [Node.isCall, Node.role, Node.kind] using h.isCall
      have hedit : (Node.node .expression .call sp' ks).edited (p.takenOut m) (s.way ++ [0])
          = .node .expression .call sp' (Node.editKids (p.takenOut m) (s.way ++ [0]) .call ks) := by
        rw [Node.edited, Node.editFrom_eq_node (by simp [Node.wholeWay?]) hstays]
        rfl
      rw [hedit, matched?_editKids hagree, h.matched]
      exact ⟨rfl, rfl⟩

end CallStatement

end Policy

/-! ### Markers -/

namespace Options

/-- **A marker keeps the statement that it stands beside, and nothing else
does.** A call statement of a file that was read stays if a comment with a
marker stands before it, with only blanks and comments in between, unless the
call starts later than the statement and has comments of its own before it; and
likewise if one stands after it on its line, unless the call ends earlier and
has comments of its own after it. It goes if no comment within reach has a
marker. -/
theorem rewrite_marked (o : Options) {path code : String} {kind : FileKind} {file : ParsedFile}
    (hfile : parseFile path code kind = .ok file) {s : Site} {sp : Span} {call : Node}
    {member : ConsoleMember}
    (hs : (o.policy file.index).CallStatement file.module s sp call member) :
    let p := o.policy file.index
    let r := o.rewrite path file
    let gone := p.takenOut file.module
    r.module = file.module.edit gone
    ∧ ((∃ c ∈ file.comments.comments, o.markers.occurIn c.text = true
          ∧ (file.index.Clear isBlank c.span.hi sp.lo
              ∧ (call.lo = sp.lo ∨ ∀ d ∈ file.comments.comments,
                  ¬ file.index.Clear isBlank d.span.hi call.lo)
            ∨ file.index.Clear isInlineBlank sp.hi c.span.lo
              ∧ (call.hi = sp.hi ∨ ∀ d ∈ file.comments.comments,
                  ¬ file.index.Clear isInlineBlank call.hi d.span.lo))) →
        ⟨call.span, member, true, true⟩ ∈ r.verdicts
        ∧ ∃ call', s.node.editFrom gone s.way = some (.node .statement .exprStmt sp [call'])
          ∧ call'.span = call.span ∧ call'.matched? o.includes = some member)
    ∧ ((∀ c ∈ file.index.reachable call s.node.extent, o.markers.occurIn c.text = false) →
        ⟨call.span, member, true, false⟩ ∈ r.verdicts
        ∧ s.node.editFrom gone s.way = none) := by
  intro p r gone
  obtain ⟨hi, hapart⟩ := apart_of_parseFile hfile
  have horder : Comment.InOrder file.index.comments := Attached.inOrder_all hapart
  have hmem : ∀ {c}, c ∈ file.index.comments ↔ c ∈ file.comments.comments := Attached.mem_all hapart
  have hextent : s.node.extent.span = sp := by rw [hs.node]; rfl
  have hverdict := hs.verdict_mem
  refine ⟨congrArg Prod.fst (p.strip_eq file.module), ?_, ?_⟩
  · rintro ⟨c, hc, hmarker, hbeside⟩
    have hcollect : c ∈ file.index.collect call (some s.node.extent) := by
      rcases hbeside with ⟨hclear, hown⟩ | ⟨hclear, hown⟩
      · refine CommentIndex.mem_collect_of_leading (hown.imp ?_ fun hnone => ?_) ?_
        · rw [hextent]; exact id
        · exact CommentIndex.leading_eq_nil horder fun d hd => hnone d (hmem.mp hd)
        · rw [hextent]; exact (CommentIndex.mem_leading horder).mpr ⟨hmem.mpr hc, hclear⟩
      · refine CommentIndex.mem_collect_of_trailing (hown.imp ?_ fun hnone => ?_) ?_
        · rw [hextent]; exact id
        · exact CommentIndex.trailing_eq_nil horder fun d hd => hnone d (hmem.mp hd)
        · rw [hextent]; exact (CommentIndex.mem_trailing horder).mpr ⟨hmem.mpr hc, hclear⟩
    have hkeep : Policy.CallStatement.keeps p s call = true :=
      List.any_eq_true.mpr ⟨c, hcollect, hmarker⟩
    rw [hkeep] at hverdict
    exact ⟨hverdict, hs.editFrom_of_kept hkeep⟩
  · intro hnone
    have hgone : Policy.CallStatement.keeps p s call = false := by
      refine List.any_eq_false.mpr fun c hc => ?_
      have hmarker : p.markers.occurIn c.text = false :=
        hnone c (CommentIndex.mem_reachable_of_mem_collect hc)
      rw [hmarker]
      exact Bool.false_ne_true
    rw [hgone] at hverdict
    exact ⟨hverdict, hs.editFrom_of_gone hgone⟩

/-- A marker in a comment found right before a position stands there. -/
lemma exists_marker_before {path code : String} {kind : FileKind} {file : ParsedFile} {ms : Markers}
    {pos : Nat} (hfile : parseFile path code kind = .ok file)
    (h : (file.index.leading pos).any (fun c => ms.occurIn c.text) = true) :
    ∃ c ∈ file.comments.comments, ms.occurIn c.text = true
      ∧ file.index.Clear isBlank c.span.hi pos := by
  obtain ⟨hi, hapart⟩ := apart_of_parseFile hfile
  obtain ⟨c, hc, hmarker⟩ := List.any_eq_true.mp h
  obtain ⟨hmem, hclear⟩ := (CommentIndex.mem_leading (Attached.inOrder_all hapart)).mp hc
  exact ⟨c, (Attached.mem_all hapart).mp hmem, hmarker, hclear⟩

/-- Of two calls, the first is kept by the comment that leads it, and the second,
which no marker reaches, is taken out. -/
theorem rewrite_marked_two_calls :
    ∃ file, parseFile "a.ts" "// keep-console\nconsole.log(1);\nconsole.warn(2);" .ts = .ok file
      ∧ ⟨⟨16, 30⟩, ⟨some "log"⟩, true, true⟩ ∈ (({} : Options).rewrite "a.ts" file).verdicts
      ∧ ⟨⟨32, 47⟩, ⟨some "warn"⟩, true, false⟩ ∈ (({} : Options).rewrite "a.ts" file).verdicts := by
  obtain ⟨file, hfile, hrun⟩ : ∃ file,
      parseFile "a.ts" "// keep-console\nconsole.log(1);\nconsole.warn(2);" .ts = .ok file
      ∧ (let p := ({} : Options).policy file.index
        file.module.sites.any (p.findsCall ⟨16, 31⟩ ⟨16, 30⟩ ⟨some "log"⟩)
          && (file.index.leading 16).any (fun c => p.markers.occurIn c.text)
          && file.module.sites.any (p.findsCall ⟨32, 48⟩ ⟨32, 47⟩ ⟨some "warn"⟩)
          && file.module.sites.all (fun s => s.node.span != ⟨32, 48⟩
            || s.node.kids.all (fun call => (file.index.reachable call s.node.extent).all
              (fun c => !p.markers.occurIn c.text)))) = true :=
    exists_parsed (by decide +kernel)
  simp only [Bool.and_eq_true] at hrun
  obtain ⟨⟨⟨hlog, hmarker⟩, hwarn⟩, hall⟩ := hrun
  obtain ⟨s, call, hs, hspan⟩ := Policy.exists_callStatement hlog
  obtain ⟨t, call', ht, hspan'⟩ := Policy.exists_callStatement hwarn
  refine ⟨file, hfile, ?_, ?_⟩
  · obtain ⟨c, hc, hmark, hclear⟩ := exists_marker_before hfile hmarker
    have hlo : call.lo = 16 := congrArg Span.lo hspan
    have hkept := (rewrite_marked {} hfile hs).2.1 ⟨c, hc, hmark, .inl ⟨hclear, .inl hlo⟩⟩
    rw [← hspan]
    exact hkept.1
  · have hnone : ∀ c ∈ file.index.reachable call' t.node.extent,
        ({} : Options).markers.occurIn c.text = false := by
      have hcheck := List.all_eq_true.mp hall t ht.mem
      rw [ht.node] at hcheck ⊢
      simpa [Options.policy, Node.span, Node.kids] using hcheck
    have hgone := (rewrite_marked {} hfile ht).2.2 hnone
    rw [← hspan']
    exact hgone.1

/-- A marker before a statement is not read if decorators stand before the call
and the call has a comment of its own before it. -/
theorem marker_before_decorator_unread :
    ¬ ∀ (o : Options) (path code : String) (kind : FileKind) (file : ParsedFile),
      parseFile path code kind = .ok file → ∀ s sp call member,
      (o.policy file.index).CallStatement file.module s sp call member →
      (∃ c ∈ file.comments.comments, o.markers.occurIn c.text = true
        ∧ file.index.Clear isBlank c.span.hi sp.lo) →
      ⟨call.span, member, true, true⟩ ∈ (o.rewrite path file).verdicts := by
  intro hall
  obtain ⟨file, hfile, hrun⟩ : ∃ file,
      parseFile "a.ts" "// keep-console\n@dec /* x */ console.log(1);" .ts = .ok file
      ∧ (let p := ({} : Options).policy file.index
        file.module.sites.any (p.findsCall ⟨16, 44⟩ ⟨29, 43⟩ ⟨some "log"⟩)
          && (file.index.leading 16).any (fun c => p.markers.occurIn c.text)
          && (({} : Options).rewrite "a.ts" file).verdicts
            == [⟨⟨29, 43⟩, ⟨some "log"⟩, true, false⟩]) = true :=
    exists_parsed (by decide +kernel)
  simp only [Bool.and_eq_true, beq_iff_eq] at hrun
  obtain ⟨⟨hfound, hmarker⟩, hverdicts⟩ := hrun
  obtain ⟨s, call, hs, hspan⟩ := Policy.exists_callStatement hfound
  have hkept := hall {} "a.ts" _ .ts file hfile s _ call _ hs (exists_marker_before hfile hmarker)
  rw [hverdicts] at hkept
  simp at hkept

end Options

end ConsoleStrip
