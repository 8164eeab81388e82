/-
Trees whose calls have the shape that the syntax gives them.

* `Node.CallShape`: the shape of a call: its arguments are a list, and lists of
  statements stand in its children alone;
* `Node.Shaped`: all calls in a tree have that shape;
* `Tree`: a tree of which this is known. Constructs are read as such trees, so
  that a call is built by `Tree.call` and by nothing else.
-/
import ConsoleStrip.Tree.Node

namespace ConsoleStrip

/-- The kind of calls. -/
def Kind.isCall : Kind → Bool
  | .call => true
  | _ => false

theorem Kind.ne_call {k : Kind} (h : k.isCall = false) : k ≠ .call := by
  rintro rfl
  exact absurd h (by decide)

namespace Node

/-! ### The shape of calls -/

mutual

/-- A list of items stands in a node outside its children. -/
def holdsItems : Node → Bool
  | absent => false
  | node r k s ks => !(node r k s ks).isChild && (k == .items || someHoldsItems ks)

/-- A list of items stands in one of some nodes outside its children. -/
def someHoldsItems : List Node → Bool
  | [] => false
  | n :: ns => holdsItems n || someHoldsItems ns

end

theorem someHoldsItems_eq_false {ns : List Node} (h : ∀ n ∈ ns, n.holdsItems = false) :
    someHoldsItems ns = false := by
  induction ns with
  | nil => rfl
  | cons n ns ih =>
    rw [someHoldsItems, h n List.mem_cons_self, ih fun m hm => h m (List.mem_cons_of_mem n hm)]
    rfl

/-- A call as the syntax has it: the arguments are a list, and lists of
statements stand in its children alone. -/
structure CallShape (call : Node) : Prop where
  role : (call.kid 1).role = .plain
  kind : (call.kid 1).kind = .list
  holds : someHoldsItems call.kids = false

/-- Whatever is a call in a tree, in any place, has the shape of one. -/
def Shaped (n : Node) : Prop := ∀ m ∈ n.preorder, m.kind = .call → m.CallShape

theorem shaped_absent : absent.Shaped := fun _ h => by simp [preorder] at h

/-- A tree is shaped if what stands below its root is, and its root, if it is a
call, has the shape of one. -/
theorem shaped_node_iff {r : Role} {k : Kind} {s : Span} {ks : List Node} :
    (node r k s ks).Shaped ↔ (k = .call → (node r k s ks).CallShape) ∧ ∀ c ∈ ks, c.Shaped := by
  constructor
  · intro h
    refine ⟨h (node r k s ks) (by simp [preorder]), fun c hc m hm => h m ?_⟩
    rw [preorder, preorderList_eq_flatMap]
    exact List.mem_cons_of_mem _ (List.mem_flatMap.mpr ⟨c, hc, hm⟩)
  · rintro ⟨hself, hkids⟩ m hm
    rw [preorder, preorderList_eq_flatMap, List.mem_cons, List.mem_flatMap] at hm
    obtain rfl | ⟨c, hc, hm⟩ := hm
    · exact hself
    · exact hkids c hc m hm

theorem Shaped.below {r : Role} {k : Kind} {s : Span} {ks : List Node}
    (h : (node r k s ks).Shaped) : ∀ c ∈ ks, c.Shaped :=
  (shaped_node_iff.mp h).2

theorem Shaped.of_mem_kids {n : Node} (h : n.Shaped) : ∀ c ∈ n.kids, c.Shaped := by
  cases n with
  | absent => simp [kids]
  | node r k s ks => exact h.below

/-- The shape of a call is in its children. -/
theorem CallShape.congr {n m : Node} (h : n.CallShape) (hkids : m.kids = n.kids) : m.CallShape := by
  have hkid : m.kid 1 = n.kid 1 := by rw [kid, kid, hkids]
  exact ⟨hkid ▸ h.role, hkid ▸ h.kind, hkids ▸ h.holds⟩

theorem Shaped.asRole {n : Node} (h : n.Shaped) (r : Role) : (n.asRole r).Shaped := by
  cases n with
  | absent => exact h
  | node r' k s ks =>
    obtain ⟨hself, hkids⟩ := shaped_node_iff.mp h
    exact shaped_node_iff.mpr ⟨fun hk => (hself hk).congr rfl, hkids⟩

end Node

/-- A syntax tree whose calls have the shape of calls. -/
structure Tree where
  toNode : Node
  shaped : toNode.Shaped

namespace Tree

instance : Coe Tree Node := ⟨toNode⟩

/-- No tree. -/
def absent : Tree := ⟨.absent, Node.shaped_absent⟩

instance : Inhabited Tree := ⟨absent⟩

/-! ### Parts -/

/-- The place that a tree fills. -/
def role (t : Tree) : Role := t.toNode.role

/-- What a tree is. -/
def kind (t : Tree) : Kind := t.toNode.kind

/-- Where a tree stands in the source. -/
def span (t : Tree) : Span := t.toNode.span

/-- Where a tree starts. -/
def lo (t : Tree) : Nat := t.toNode.lo

/-- Where a tree ends. -/
def hi (t : Tree) : Nat := t.toNode.hi

/-- The tree is there. -/
def isPresent (t : Tree) : Bool := t.toNode.isPresent

/-- The children of a tree, in order. -/
def kids (t : Tree) : List Tree := t.toNode.kids.pmap mk t.shaped.of_mem_kids

/-- The child at an index; one that is missing is absent. -/
def kid (t : Tree) (i : Nat) : Tree := t.kids.getD i absent

/-! ### Building -/

theorem shaped_of_mem_map {ts : List Tree} : ∀ n ∈ ts.map toNode, n.Shaped := by
  intro n hn
  obtain ⟨t, -, rfl⟩ := List.mem_map.mp hn
  exact t.shaped

/-- The same tree in another place of the grammar. -/
def asRole (r : Role) (t : Tree) : Tree := ⟨t.toNode.asRole r, t.shaped.asRole r⟩

/-- A tree of some children that is no call, by its kind. -/
def node (r : Role) (k : Kind) (s : Span) (ks : List Tree)
    (h : k.isCall = false := by exact .refl false) : Tree where
  toNode := .node r k s (ks.map toNode)
  shaped := Node.shaped_node_iff.mpr ⟨fun hk => absurd hk (Kind.ne_call h), shaped_of_mem_map⟩

/-- An expression. -/
def expr (k : Kind) (s : Span) (ks : List Tree)
    (h : k.isCall = false := by exact .refl false) : Tree :=
  node .expression k s ks h

/-- A statement. -/
def stmt (k : Kind) (s : Span) (ks : List Tree)
    (h : k.isCall = false := by exact .refl false) : Tree :=
  node .statement k s ks h

/-- A tree that fills no place of its own. -/
def plain (k : Kind) (s : Span) (ks : List Tree)
    (h : k.isCall = false := by exact .refl false) : Tree :=
  node .plain k s ks h

/-- A list of trees. -/
def list (ks : List Tree) : Tree := plain .list ⟨0, 0⟩ ks

/-- A list of statements or declarations. -/
def items (ks : List Tree) : Tree := plain .items ⟨0, 0⟩ ks

/-- A tree as a part of a call. Parts of calls are expressions and types, and
hold no statements by themselves; a part that did is put in the place of an
expression. -/
def part (t : Tree) : Tree := if t.toNode.holdsItems then t.asRole .expression else t

theorem holdsItems_part (t : Tree) : t.part.toNode.holdsItems = false := by
  unfold part
  split
  · obtain ⟨n, hn⟩ := t
    cases n with
    | absent => rfl
    | node r k s ks =>
      change Node.holdsItems (.node .expression k s ks) = false
      rw [Node.holdsItems]
      rfl
  · next h => simpa using h

theorem someHoldsItems_map {ts : List Tree} (h : ∀ t ∈ ts, t.toNode.holdsItems = false) :
    Node.someHoldsItems (ts.map toNode) = false := by
  refine Node.someHoldsItems_eq_false fun n hn => ?_
  obtain ⟨t, ht, rfl⟩ := List.mem_map.mp hn
  exact h t ht

theorem holdsItems_list {ts : List Tree} (h : ∀ t ∈ ts, t.toNode.holdsItems = false) :
    (list ts).toNode.holdsItems = false := by
  change Node.holdsItems (.node .plain .list ⟨0, 0⟩ (ts.map toNode)) = false
  rw [Node.holdsItems, someHoldsItems_map h]
  rfl

/-- A call of something. -/
def call (s : Span) (callee : Tree) (args : List Tree) (typeArgs : Tree) : Tree where
  toNode := .node .expression .call s
    ([callee.part, list (args.map part), typeArgs.part].map toNode)
  shaped := by
    have hargs : (list (args.map part)).toNode.holdsItems = false := by
      refine holdsItems_list fun t ht => ?_
      obtain ⟨a, -, rfl⟩ := List.mem_map.mp ht
      exact a.holdsItems_part
    refine Node.shaped_node_iff.mpr
      ⟨fun _ => ⟨rfl, rfl, someHoldsItems_map ?_⟩, shaped_of_mem_map⟩
    simp [holdsItems_part, hargs]

end Tree

end ConsoleStrip
