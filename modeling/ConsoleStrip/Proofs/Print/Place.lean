/-
Where printing looks for comments.

* `Kind.places`, `Node.places`: where a node starts and ends, and for some kinds
  one more position; all such positions of a tree;
* `Emit.heeds_layout`: the layout of a node looks for comments at its places and
  at those of its parts;
* `Node.print_only`: a tree is printed with the comments at its places alone.
-/
import ConsoleStrip.Proofs.Print.Heed
import ConsoleStrip.Proofs.Tree.Site

namespace ConsoleStrip

namespace Emit

variable {live : Nat → Bool} {s : Span} {ps : Parts}

/-! ### Layouts -/

section Layout

variable [h : ps.Heeds live]

instance : Heeds live (decorators ps) :=
  heeds_forM fun p hp => (h.of_mem p hp).emit .whole

lemma heeds_interleaved (pieces exprs : Parts) (hpieces : ∀ p ∈ pieces, p.Heeds live)
    (hexprs : ∀ p ∈ exprs, p.Heeds live) : Heeds live (interleaved pieces exprs) := by
  induction pieces generalizing exprs with
  | nil => exact inferInstanceAs (Heeds live (pure ()))
  | cons piece rest ih =>
      have hpiece := (hpieces piece (by simp)).emit .whole
      have hrest := fun p (hp : p ∈ rest) => hpieces p (by simp [hp])
      cases exprs with
      | nil => exact .bind hpiece fun _ => ih [] hrest (by simp)
      | cons e more =>
          have he := (hexprs e (by simp)).emit .whole
          have hmore := ih more hrest fun p hp => hexprs p (by simp [hp])
          dsimp only [interleaved]
          repeat' first | with_reducible refine .bind ?_ fun _ => ?_ | infer_instance

variable [Fact (live s.lo = true)]

instance : Heeds live (template s ps) := by
  have hpieces : Heeds live (interleaved (ps.inner 1) (ps.inner 0)) :=
    heeds_interleaved _ _ Parts.Heeds.of_mem Parts.Heeds.of_mem
  unfold template
  repeat' first | with_reducible refine .bind ?_ fun _ => ?_ | infer_instance

instance (parent : Span) (m : Manner) : Heeds live (functionRest parent m ps) := by
  unfold functionRest
  repeat' first | with_reducible refine .bind ?_ fun _ => ?_ | infer_instance | split

instance (parent : Span) : Heeds live (classRest parent ps) := by
  unfold classRest
  repeat' first | with_reducible refine .bind ?_ fun _ => ?_ | infer_instance | split

instance (isDeclare : Bool) : Heeds live (namedFunction s isDeclare ps) := by
  unfold namedFunction
  dsimp only
  repeat' first | with_reducible refine .bind ?_ fun _ => ?_ | infer_instance | split

instance (isDeclare : Bool) (m : Manner) : Heeds live (namedClass s isDeclare ps m) := by
  unfold namedClass
  dsimp only
  repeat' first | with_reducible refine .bind ?_ fun _ => ?_ | infer_instance | split

/-- How expressions are printed. What stands before the closing brace decides how
an empty object literal is. -/
lemma heeds_exprOf (m : Manner) {k : Kind} (hclose : k = .object → live (s.hi - 1) = true) :
    Heeds live (exprOf s ps m k) := by
  have hclose : k = .object → Fact (live (s.hi - 1) = true) := fun hk => ⟨hclose hk⟩
  -- one case for each kind; each layout is a sequence of steps with tests in it
  unfold exprOf
  split
  all_goals
    try simp only [forall_const] at hclose
    try dsimp only [atom, privateName, keyword, array, brackets, object, spread, unary, update,
      infixed, memberName, member, computed, conditional, call, arguments, new, sequence,
      taggedTemplate, templatePiece, arrow, argument, yieldExpr, await, paren, optionalChain,
      withAfter, typed, typeAssertion, constAssertion, shorthandInit, keyValue, getter, setter,
      method]
    repeat' first
      | with_reducible refine .bind ?_ fun _ => ?_
      | with_reducible refine heeds_indent ?_ | infer_instance | split

/-- How parts of functions and classes, and patterns, are printed. -/
lemma heeds_functionPartOf (k : Kind) : Heeds live (functionPartOf s ps k) := by
  unfold functionPartOf
  split
  all_goals
    try dsimp only [param, access, paramProperty, decorator, constructor, classMethod,
      classProperty, atom, staticBlock, binding, arrayPattern, objectPattern, rest, assignPattern,
      keyValue, shorthandPattern]
    repeat' first | with_reducible refine .bind ?_ fun _ => ?_ | infer_instance | split

/-- The parts of a node that satisfy a test, and those that do not. -/
instance (q : Part → Bool) : Parts.Heeds live (ps.partition q).1 := by
  rw [List.partition_eq_filter_filter]
  exact ⟨h.zero, fun p hp => h.of_mem p (List.mem_of_mem_filter hp)⟩

instance (q : Part → Bool) : Parts.Heeds live (ps.partition q).2 := by
  rw [List.partition_eq_filter_filter]
  exact ⟨h.zero, fun p hp => h.of_mem p (List.mem_of_mem_filter hp)⟩

instance : Heeds live (ps.head?.forM (·.emit .whole)) := by
  cases hhead : ps.head? with
  | none => exact inferInstanceAs (Heeds live (pure ()))
  | some p => exact (h.of_mem p (List.mem_of_head? hhead)).emit .whole

instance : Heeds live ((ps.drop 1).forM fun p => do
    punct .comma
    space
    p.emit .whole) :=
  heeds_forM fun p hp => .bind inferInstance fun _ => .bind inferInstance fun _ =>
    (h.of_mem p (List.mem_of_mem_drop hp)).emit .whole

instance (parent : Span) : Heeds live (bracedNames parent ps) := by
  unfold bracedNames
  repeat' first | with_reducible refine .bind ?_ fun _ => ?_ | infer_instance

instance (i : Nat) : Heeds live (attributes ps i) := by
  unfold attributes
  repeat' first | with_reducible refine .bind ?_ fun _ => ?_ | infer_instance | split

instance (typeOnly : Bool) (phase : Option String) :
    Heeds live (importDecl s typeOnly phase ps) := by
  unfold importDecl
  dsimp only
  repeat' first | with_reducible refine .bind ?_ fun _ => ?_ | infer_instance | split

instance (typeOnly : Bool) : Heeds live (exportNamed s typeOnly ps) := by
  have hothers : Heeds live (((ps.inner 0).partition isListed).2.forM (·.emit .whole)) :=
    inferInstanceAs (Heeds live (decorators ((ps.inner 0).partition isListed).2))
  unfold exportNamed
  dsimp only
  repeat' first | with_reducible refine .bind ?_ fun _ => ?_ | infer_instance | split

instance : Heeds live (namespaceBody s ps) := by
  have hlist : Heeds live (listing .members s <| (ps.inner 0).map fun item =>
      ⟨item.node.span, do
        item.emit .whole
        trailingComments item.node.hi⟩) := by
    refine heeds_listing .members s fun m hm => ?_
    obtain ⟨item, hitem, rfl⟩ := List.mem_map.mp hm
    have hitem : item.Heeds live := Parts.Heeds.of_mem item hitem
    have : Fact (live item.node.hi = true) := ⟨hitem.hi⟩
    exact ⟨hitem.lo, hitem.hi, .bind (hitem.emit .whole) fun _ => inferInstance⟩
  unfold namespaceBody
  repeat' first | with_reducible refine .bind ?_ fun _ => ?_ | infer_instance

/-- How statements are printed. The comments before the closing brace of a block
are printed with it. -/
lemma heeds_statementOf [Fact (live s.hi = true)] (m : Manner) {k : Kind}
    (hclose : k = .block → live (s.hi - 1) = true) : Heeds live (statementOf s ps m k) := by
  have hclose : k = .block → Fact (live (s.hi - 1) = true) := fun hk => ⟨hclose hk⟩
  unfold statementOf
  split
  all_goals
    try simp only [forall_const] at hclose
    try dsimp only [block, keyword, atom, withStmt, wordWithArg, argument, labeled, jump, ifStmt,
      switchStmt, switchCase, tryStmt, catchClause, whileStmt, doWhile, forStmt, forIn, forOf,
      exprStmt, varDecl, declarator, interface, braced, inOrder, typeAlias, enumDecl, enumMember,
      moduleBlock, nestedNamespace, renamed, allAs, exportDecl, exportDefaultDecl,
      exportDefaultExpr, attributes, exportAll, importEquals, externalModule, exportAssignment]
    repeat' first | with_reducible refine .bind ?_ fun _ => ?_ | infer_instance | split

/-- How markup is printed. The comments after the opening brace of an expression are
printed with it. -/
lemma heeds_markupOf {k : Kind} (hopen : k = .markupExpr → live (s.lo + 1) = true) :
    Heeds live (markupOf s ps k) := by
  have hopen : k = .markupExpr → Fact (live (s.lo + 1) = true) := fun hk => ⟨hopen hk⟩
  unfold markupOf
  split
  all_goals
    try simp only [forall_const] at hopen
    try dsimp only [element, openingTag, closingTag, markupAttr, keyword, atom, markupExpr,
      markupSpread, markupNames]
    repeat' first | with_reducible refine .bind ?_ fun _ => ?_ | infer_instance | split

/-- How types are printed. -/
lemma heeds_typeOf (m : Manner) (k : Kind) : Heeds live (typeOf s ps m k) := by
  unfold typeOf
  split
  all_goals
    try dsimp only [around, angled, mappedParam, typeParam, keyword, atom, parameters, functionType,
      constructorType, inOrder, joinedBy, wordAndType, braced, tupleType, tupleElement, operands,
      conditionalType, indexedAccess, sign, mappedType, typePredicate, importType, memberKey,
      callSignature, constructSignature, propertySignature, getterSignature, setterSignature,
      methodSignature, indexSignature]
    repeat' first
      | with_reducible refine .bind ?_ fun _ => ?_
      | with_reducible refine heeds_indent ?_ | infer_instance | split

instance [Fact (live s.hi = true)] (firstLine : Option String) :
    Heeds live (module s firstLine ps) := by
  have hitems : Heeds live (ForIn.forIn (ps.inner 0) PUnit.unit fun item _ => do
      item.emit .whole
      trailingComments item.node.hi
      pure (ForInStep.yield PUnit.unit)) := by
    refine heeds_forIn (fun item hitem _ => ?_) _
    have hitem : item.Heeds live := Parts.Heeds.of_mem item hitem
    have : Fact (live item.node.hi = true) := ⟨hitem.hi⟩
    exact .bind (hitem.emit .whole) fun _ => .bind inferInstance fun _ => inferInstance
  unfold module
  dsimp only
  repeat' first | with_reducible refine .bind ?_ fun _ => ?_ | infer_instance | split

end Layout

end Emit

/-- The positions at which the layout of a node looks for comments: where it starts
and where it ends, and before a closing brace or after an opening one. -/
def Kind.places (k : Kind) (s : Span) : List Nat :=
  match k with
  | .object | .block => [s.lo, s.hi, s.hi - 1]
  | .markupExpr => [s.lo, s.hi, s.lo + 1]
  | _ => [s.lo, s.hi]

lemma Kind.lo_mem_places (k : Kind) (s : Span) : s.lo ∈ k.places s := by
  unfold places
  split <;> simp

lemma Kind.hi_mem_places (k : Kind) (s : Span) : s.hi ∈ k.places s := by
  unfold places
  split <;> simp

/-- The positions at which printing a tree looks for comments. -/
def Node.places (n : Node) : List Nat :=
  0 :: n.preorder.flatMap fun m => m.kind.places m.span

namespace Emit

variable {live : Nat → Bool} {s : Span} {ps : Parts}

/-- **Layouts.** The layout of a node looks for comments at its places and where
its parts do. -/
lemma heeds_layout {k : Kind} (hk : ∀ pos ∈ k.places s, live pos = true) [ps.Heeds live]
    (m : Manner) : Heeds live (layout k s ps m) := by
  have hlo : Fact (live s.lo = true) := ⟨hk _ (k.lo_mem_places s)⟩
  have hhi : Fact (live s.hi = true) := ⟨hk _ (k.hi_mem_places s)⟩
  have hexpr : Heeds live (exprOf s ps m k) :=
    heeds_exprOf m fun hobject => hk _ (by simp [hobject, Kind.places])
  have hfunction : Heeds live (functionPartOf s ps k) := heeds_functionPartOf k
  have hstatement : Heeds live (statementOf s ps m k) :=
    heeds_statementOf m fun hblock => hk _ (by simp [hblock, Kind.places])
  have hmarkup : Heeds live (markupOf s ps k) :=
    heeds_markupOf fun hopen => hk _ (by simp [hopen, Kind.places])
  have htype : Heeds live (typeOf s ps m k) := heeds_typeOf m k
  unfold layout
  repeat' first | with_reducible refine .bind ?_ fun _ => ?_ | infer_instance | split

lemma heeds_inPlace {r : Role} {k : Kind} (hhi : live s.hi = true) {core : Emit Unit}
    (hcore : Heeds live core) : Heeds live (inPlace r k s core) := by
  have hhi : Fact (live s.hi = true) := ⟨hhi⟩
  unfold inPlace
  repeat' first | with_reducible refine .bind ?_ fun _ => ?_ | infer_instance | split

end Emit

namespace Node

lemma printedAll_eq_map (ns : List Node) : printedAll ns = ns.map printed := by
  induction ns with
  | nil => rw [printedAll, List.map_nil]
  | cons n ns ih => rw [printedAll, ih, List.map_cons]

section

variable {r : Role} {k : Kind} {s : Span} {ks : List Node}

lemma kind_places_subset : k.places s ⊆ (node r k s ks).places := by
  intro pos hpos
  rw [places, preorder, List.flatMap_cons]
  exact List.mem_cons_of_mem _ (List.mem_append_left _ hpos)

lemma places_subset_of_mem {n : Node} (hn : n ∈ ks) : n.places ⊆ (node r k s ks).places := by
  rw [places, places, preorder, preorderList_eq_flatMap, List.flatMap_cons]
  refine List.cons_subset_cons 0 (List.subset_append_of_subset_right _ fun pos hpos => ?_)
  obtain ⟨m, hm, hpos⟩ := List.mem_flatMap.mp hpos
  exact List.mem_flatMap.mpr ⟨m, List.mem_flatMap.mpr ⟨n, hn, hm⟩, hpos⟩

end

/-- What is printed of a tree looks for comments at its places alone. -/
lemma heeds_printed {live : Nat → Bool} (n : Node) (hn : ∀ pos ∈ n.places, live pos = true) :
    n.printed.Heeds live := by
  have hzero : live 0 = true := hn 0 (by simp [places])
  induction n using ind with
  | habsent =>
      rw [printed]
      exact .intro hzero hzero (fun _ => inferInstanceAs (Emit.Heeds live (pure ()))) (by simp)
  | hnode r k s ks ih =>
      have hk : ∀ pos ∈ k.places s, live pos = true :=
        fun pos hpos => hn pos (kind_places_subset hpos)
      have hparts : ∀ p ∈ printedAll ks, p.Heeds live := by
        intro p hp
        rw [printedAll_eq_map] at hp
        obtain ⟨n, hmem, rfl⟩ := List.mem_map.mp hp
        exact ih n hmem fun pos hpos => hn pos (places_subset_of_mem hmem hpos)
      have hall : Parts.Heeds live (printedAll ks) := ⟨hzero, hparts⟩
      rw [printed]
      exact .intro (hk _ (Kind.lo_mem_places k s)) (hk _ (Kind.hi_mem_places k s))
        (fun m => Emit.heeds_inPlace (hk _ (Kind.hi_mem_places k s)) (Emit.heeds_layout hk m))
        hparts

/-- **Comments that are printed.** A tree is printed as it is without the comments
that are not at its places, and these are left. -/
lemma print_only {live : Nat → Bool} {n : Node} (hn : ∀ pos ∈ n.places, live pos = true)
    (a : Attached) : n.print (a.only live) = (n.print a).only live :=
  congrArg Prod.snd (((heeds_printed n hn).emit .whole).run_only { comments := a })

end Node

end ConsoleStrip
