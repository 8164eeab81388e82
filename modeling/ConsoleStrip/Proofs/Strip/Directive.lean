/-
The directives that lists of statements start with.

* `Policy.filterMap_items?_strip`: the lists of statements that stripping leaves
  are the lists of the given tree that lie in no call that goes, in their order,
  each with what is left of its statements;
* `Policy.promoted`: the strings that become directives because all statements
  between them and the directives go;
* `Policy.prologues_left`: stripping leaves the directives of every list, those
  of the file and of the bodies of functions among them, and puts after them the
  strings that it promotes.
-/
import Mathlib.Data.List.TakeWhile
import ConsoleStrip.Proofs.Strip.Prologue

namespace ConsoleStrip

/-! ### Elements at the start of what is left of a list -/

section Lists

variable {α : Type} {q k : α → Bool}

/-- If an element of a sort is not taken out, then what is left of a list starts
with the elements of that sort with which the list starts. -/
lemma takeWhile_filter (h : ∀ x, q x = true → k x = true) (l : List α) :
    (l.filter k).takeWhile q = l.takeWhile q ++ ((l.dropWhile q).filter k).takeWhile q := by
  induction l with
  | nil => rfl
  | cons x xs ih =>
      cases hq : q x with
      | true =>
          rw [List.filter_cons_of_pos (h x hq), List.takeWhile_cons_of_pos hq,
            List.takeWhile_cons_of_pos hq, List.dropWhile_cons_of_pos hq, ih, List.cons_append]
      | false =>
          rw [List.takeWhile_cons_of_neg (by simp [hq]), List.dropWhile_cons_of_neg (by simp [hq]),
            List.nil_append]

lemma takeWhile_ne_nil_iff (l : List α) : l.takeWhile q ≠ [] ↔ opensWith q (fun _ => false) l := by
  cases l with
  | nil => simp [opensWith]
  | cons x xs => cases hq : q x <;> simp [opensWith, hq]

/-- What is left of a list starts with more elements of a sort exactly if one
stands behind elements that are taken out and, before these, elements of that
sort only. -/
lemma takeWhile_filter_dropWhile_ne_nil_iff (h : ∀ x, q x = true → k x = true) (l : List α) :
    ((l.dropWhile q).filter k).takeWhile q ≠ [] ↔
      ∃ pre gone d post, l = pre ++ gone ++ d :: post ∧ (∀ x ∈ pre, q x = true) ∧ gone ≠ []
        ∧ (∀ x ∈ gone, k x = false) ∧ q d = true := by
  rw [takeWhile_ne_nil_iff, opensWith_filter h, opensWith_iff]
  simp only [Bool.false_or, Bool.not_eq_true']
  constructor
  · rintro ⟨gone, d, post, hdrop, hd, hgone⟩
    refine ⟨l.takeWhile q, gone, d, post, ?_, fun x hx => List.mem_takeWhile_imp hx, ?_, hgone, hd⟩
    · rw [List.append_assoc, ← hdrop, List.takeWhile_append_dropWhile]
    · -- the first element that is dropped no more is not of that sort
      rintro rfl
      have hhead := List.head?_dropWhile_not q l
      rw [hdrop] at hhead
      simp [hd] at hhead
  · rintro ⟨pre, gone, d, post, rfl, hpre, hne, hgone, hd⟩
    obtain ⟨x, xs, rfl⟩ := List.exists_cons_of_ne_nil hne
    have hx : ¬ q x = true := fun hq => by simpa [h x hq] using hgone x List.mem_cons_self
    refine ⟨x :: xs, d, post, ?_, hd, hgone⟩
    rw [List.append_assoc, List.dropWhile_append_of_pos hpre, List.cons_append,
      List.dropWhile_cons_of_neg hx]

end Lists

namespace Node

/-- The statements of a list of statements. -/
def items? (n : Node) : Option (List Node) := if n.kind == .items then some n.kids else none

lemma items?_node (r : Role) (k : Kind) (s : Span) (ks : List Node) :
    (node r k s ks).items? = if k == .items then some ks else none := rfl

end Node

namespace Policy

variable {p : Policy} {gone : List (List Nat)} {r : Role} {k : Kind} {sp : Span} {ks : List Node}
  {way : List Nat} {above : List Node}

/-! ### The lists that are left -/

/-- What is left of the list of statements at a site that is reached. -/
def itemsLeft? (p : Policy) (gone : List (List Nat)) (s : Site) : Option (List Node) :=
  if p.reaches s then s.node.items?.map (Node.editItems gone s.way 0) else none

lemma itemsLeft?_eq_none {s : Site} (h : s.node.kind ≠ .items) : p.itemsLeft? gone s = none := by
  simp [itemsLeft?, Node.items?, h]

/-- In and below a call that goes no list of statements is left. -/
lemma filterMap_itemsLeft?_gone {n : Node} (h : p.takesOut ⟨way, above, n⟩ = true) :
    (n.sitesFrom way above).filterMap (p.itemsLeft? gone) = [] := by
  obtain ⟨-, hkind⟩ := isCall_of_takesOut h
  rw [takesOut, Bool.and_eq_true] at h
  rw [List.filterMap_eq_nil_iff]
  intro s hs
  cases n with
  | absent => simp [Node.sitesFrom] at hs
  | node r k sp ks =>
      rw [Node.sitesFrom, List.mem_cons] at hs
      rcases hs with rfl | hs
      · exact itemsLeft?_eq_none (by simp [hkind])
      · have hinner : p.reachesUnder (.node r k sp ks :: above) = false := by
          rw [reachesUnder_cons, ← p.condemns_way way, h.2]
          rfl
        have hunreached : p.reaches s = false :=
          p.reachesUnder_of_suffix (Node.above_of_mem_sitesOf hs) hinner
        simp [itemsLeft?, hunreached]

/-- In and below a statement that goes no list of statements is left. -/
lemma filterMap_itemsLeft?_statement {n : Node} {w : List Nat}
    (hreach : p.reachesUnder above = true) (hagree : p.Agrees gone (n.sitesFrom way above))
    (hw : n.wholeWay? = some w) (hgone : gone.contains (way ++ w) = true) :
    (n.sitesFrom way above).filterMap (p.itemsLeft? gone) = [] := by
  obtain ⟨c, hcall⟩ := Node.exists_statementCall? hw
  obtain ⟨w', outer, inner, hw', hsites, houter, -, -, -⟩ := exists_wholeSite way hcall hreach
  obtain rfl : w' = w := by rw [hw'] at hw; exact Option.some.inj hw
  have htakes : p.takesOut ⟨way ++ w', inner, c⟩ = true := by
    rw [← hagree _ (mem_wholeSite hcall hsites)]
    exact hgone
  obtain ⟨s, e, rfl, -, -⟩ := Node.statementCall?_eq_some hcall
  have hparens : outer.filterMap (p.itemsLeft? gone) = [] := by
    rw [List.filterMap_eq_nil_iff]
    intro t ht
    obtain ⟨r, s', e', heq⟩ := Node.eq_paren_of_isParen (houter t ht)
    exact itemsLeft?_eq_none (by simp [heq, Node.kind])
  rw [hsites, List.filterMap_append, List.filterMap_cons, itemsLeft?_eq_none (by simp [Node.kind]),
    hparens, filterMap_itemsLeft?_gone htakes]
  rfl

/-- The lists of statements that are left of a node are what is left of the
lists at the sites below it. -/
def ListsLeft (p : Policy) (gone : List (List Nat)) (n : Node) : Prop :=
  ∀ way above, p.reachesUnder above = true → p.Agrees gone (n.sitesFrom way above) →
    (Node.preorderList (n.editFrom gone way).toList).filterMap Node.items?
      = (n.sitesFrom way above).filterMap (p.itemsLeft? gone)

/-- What fills the place of a node has no other lists than what is left of it. -/
lemma filterMap_items?_edited (n : Node) :
    (n.edited gone way).preorder.filterMap Node.items?
      = (Node.preorderList (n.editFrom gone way).toList).filterMap Node.items? := by
  rw [Node.edited]
  cases n.editFrom gone way with
  | none => rfl
  | some m => simp [Node.preorderList]

/-- The lists that are left of the children of a node. -/
lemma filterMap_items?_editKids (hall : ∀ c ∈ ks, p.ListsLeft gone c)
    (hreach : p.reachesUnder above = true) (k : Kind) :
    ∀ i, p.Agrees gone (Node.sitesOf way above i ks) →
      (Node.preorderList (if k == .items then Node.editItems gone way i ks
          else Node.editAll gone way i ks)).filterMap Node.items?
        = (Node.sitesOf way above i ks).filterMap (p.itemsLeft? gone) := by
  induction ks with
  | nil => intro i _; split <;> rfl
  | cons c cs ih =>
      intro i hagree
      rw [Node.sitesOf] at hagree
      have hc := hall c (by simp) (way ++ [i]) above hreach
        fun s hs => hagree s (List.mem_append_left _ hs)
      have hcs := ih (fun d hd => hall d (by simp [hd])) (i + 1)
        fun s hs => hagree s (List.mem_append_right _ hs)
      rw [Node.sitesOf, List.filterMap_append, ← hc, ← hcs]
      split
      · rw [Node.editItems, preorderList_append, List.filterMap_append]
      · rw [Node.editAll_cons, Node.preorderList, List.filterMap_append, filterMap_items?_edited]

lemma listsLeft (n : Node) : p.ListsLeft gone n := by
  induction n using Node.ind with
  | habsent => intro way above _ _; rfl
  | hnode r k sp ks ih =>
      intro way above hreach hagree
      rcases Node.editFrom_cases gone way r k sp ks with
        ⟨w, hw, hgone, hedit⟩ | ⟨-, ⟨hsite, hedit⟩ | ⟨hsite, hedit⟩⟩
      · rw [hedit, filterMap_itemsLeft?_statement hreach hagree hw hgone]
        rfl
      · rw [hedit, filterMap_itemsLeft?_gone (hagree.self ▸ hsite)]
        rfl
      · have hcond : p.condemns ⟨way, above, .node r k sp ks⟩ = false := by
          rw [hagree.self, takesOut, reaches, hreach, Bool.true_and] at hsite
          exact hsite
        have hinner : p.reachesUnder (.node r k sp ks :: above) = true := by
          rw [reachesUnder_cons, ← p.condemns_way way, hcond, hreach]
          rfl
        have hkids := filterMap_items?_editKids ih hinner k 0 hagree.kids
        -- a list that stays has its own statements edited
        have hself : (Node.node r k sp (Node.editKids gone way k ks)).items?
            = p.itemsLeft? gone ⟨way, above, .node r k sp ks⟩ := by
          rw [itemsLeft?, reaches, hreach, if_pos rfl, Node.items?_node, Node.items?_node,
            Node.editKids]
          cases k == .items <;> rfl
        rw [hedit, Option.toList_some, Node.preorderList, Node.preorderList, List.append_nil,
          Node.preorder, Node.sitesFrom, List.filterMap_cons, List.filterMap_cons, hself, ← hkids,
          Node.editKids]

/-- **The lists of statements that stripping leaves** are those of the given tree
that lie in no call that goes, each with what is left of its statements. -/
lemma filterMap_items?_strip (p : Policy) (m : Node) :
    (p.strip m).1.preorder.filterMap Node.items?
      = m.sites.filterMap (p.itemsLeft? (p.takenOut m)) := by
  rw [p.strip_eq, Node.edit, ← Node.edited, filterMap_items?_edited]
  exact listsLeft m [] [] rfl fun s hs => p.contains_takenOut hs

/-! ### The directives that are left -/

/-- A statement of the list at a site goes with the call that is the whole of
it. -/
def goes (p : Policy) (s : Site) (x : Node) : Bool := p.removes ⟨[], s.node :: s.above, x⟩

lemma not_goes_of_isStringStatement {s : Site} {x : Node}
    (h : Parser.isStringStatement x = true) : (!p.goes s x) = true :=
  not_removes_of_isStringStatement h

/-- The strings of a list of statements that become directives: those that follow
its directives once the statements that go are gone. -/
def promoted (p : Policy) (s : Site) (ks : List Node) : List String :=
  Node.prologue ((ks.dropWhile Parser.isStringStatement).filter fun x => !p.goes s x)

lemma prologue_filter_goes (p : Policy) (s : Site) (ks : List Node) :
    Node.prologue (ks.filter fun x => !p.goes s x) = Node.prologue ks ++ p.promoted s ks := by
  rw [promoted, Node.prologue, Node.prologue, Node.prologue, ← List.filterMap_append,
    takeWhile_filter fun _ => not_goes_of_isStringStatement]

/-- A string is promoted exactly if it stands behind statements that go and,
before these, strings only. -/
lemma promoted_ne_nil_iff (p : Policy) (s : Site) (ks : List Node) :
    p.promoted s ks ≠ [] ↔
      ∃ pre gone d post, ks = pre ++ gone ++ d :: post
        ∧ (∀ x ∈ pre, Parser.isStringStatement x = true) ∧ gone ≠ []
        ∧ (∀ x ∈ gone, p.goes s x = true) ∧ Parser.isStringStatement d = true := by
  rw [promoted, Node.prologue_ne_nil_iff,
    takeWhile_filter_dropWhile_ne_nil_iff fun _ => not_goes_of_isStringStatement]
  simp only [Bool.not_eq_false']

/-- **What stripping does to directives.** Of the lists of statements of a tree,
among them those of the file and of the bodies of functions, those that lie in
no call that goes are left. Each starts with the directives with which it
started, and after them with the strings that it promotes. It promotes some, and
so starts with other directives than before, exactly if a string stands in it
right behind statements that go and, before these, strings only. -/
theorem prologues_left (p : Policy) (m : Node) :
    (p.strip m).1.preorder.filterMap (fun n => n.items?.map Node.prologue)
      = m.sites.filterMap (fun s => if p.reaches s then
          s.node.items?.map fun ks => Node.prologue ks ++ p.promoted s ks else none)
    ∧ ∀ (s : Site) (ks : List Node), p.promoted s ks ≠ [] ↔
        ∃ pre gone d post, ks = pre ++ gone ++ d :: post
          ∧ (∀ x ∈ pre, Parser.isStringStatement x = true) ∧ gone ≠ []
          ∧ (∀ x ∈ gone, p.goes s x = true) ∧ Parser.isStringStatement d = true := by
  refine ⟨?_, p.promoted_ne_nil_iff⟩
  have hlists := congrArg (List.map Node.prologue) (p.filterMap_items?_strip m)
  rw [List.map_filterMap, List.map_filterMap] at hlists
  rw [hlists]
  refine List.filterMap_congr fun s hs => ?_
  rw [itemsLeft?]
  split
  · next hreach =>
    cases hitems : s.node.items? with
    | none => rfl
    | some ks =>
        obtain ⟨r, sp, hnode⟩ : ∃ r sp, s.node = .node r .items sp ks := by
          cases hnode : s.node with
          | absent => simp [hnode, Node.items?, Node.kind] at hitems
          | node r k sp ks' =>
              rw [hnode, Node.items?_node, Option.ite_none_right_eq_some] at hitems
              obtain ⟨hk, hks⟩ := hitems
              obtain rfl := Option.some.inj hks
              exact ⟨r, sp, by rw [eq_of_beq hk]⟩
        have hagree : p.Agrees (p.takenOut m) (s.node.sitesFrom s.way s.above) :=
          fun t ht => p.contains_takenOut (m.sitesFrom_subset [] [] hs ht)
        have hinner : p.reachesUnder (s.node :: s.above) = true := by
          rw [p.reachesUnder_cons_of_unmatched (Node.matched?_eq_none (by
            simp [hnode, Node.isCall, Node.kind]))]
          exact hreach
        have hkids : p.Agrees (p.takenOut m) (Node.sitesOf s.way (s.node :: s.above) 0 ks) := by
          rw [hnode] at hagree ⊢
          exact hagree.kids
        rw [Option.map_some, Option.map_some, Option.map_some, ← p.prologue_filter_goes s ks]
        exact congrArg some (prologue_editItems hinner hkids)
  · rfl

end Policy

/-- A list of statements can start with other directives after it is stripped
than before. -/
theorem string_after_call_promoted :
    ¬ ∀ (o : Options) (path code : String) (kind : FileKind) (file : ParsedFile),
      parseFile path code kind = .ok file →
      let p := o.policy file.index
      (p.strip file.module).1.preorder.filterMap (fun n => n.items?.map Node.prologue)
        = file.module.sites.filterMap
            (fun s => if p.reaches s then s.node.items?.map Node.prologue else none) := by
  intro hall
  obtain ⟨file, hfile, hrun⟩ : ∃ file,
      parseFile "a.js" "function f() \x7b console.log(1); \"use strict\"; \x7d" .js = .ok file
      ∧ (let p := ({} : Options).policy file.index
        !decide ((p.strip file.module).1.preorder.filterMap (fun n => n.items?.map Node.prologue)
          = file.module.sites.filterMap
              (fun s => if p.reaches s then s.node.items?.map Node.prologue else none))) = true :=
    exists_parsed (by decide +kernel)
  simp [hall {} "a.js" _ .js file hfile] at hrun

end ConsoleStrip
