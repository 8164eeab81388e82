/-
Syntax trees.

* `Node`: a syntax tree, or the absence of an optional part;
* `Node.span`, `Node.kids`, `Node.kid`: its parts;
* `Node.preorder`: all nodes of a tree, each before those below it.

One type holds every construct of the language, so that a rule about all
constructs (what a comment belongs to, which calls are removed) is one
recursion over `kids`.
-/
import ConsoleStrip.Text.Source
import ConsoleStrip.Tree.Kind

namespace ConsoleStrip

/-- A syntax tree. -/
inductive Node where
  | absent
  | node (role : Role) (kind : Kind) (span : Span) (kids : List Node)
deriving Repr, Inhabited, BEq

namespace Node

/-- The place that a node fills. -/
def role : Node → Role
  | absent => .plain
  | node r _ _ _ => r

/-- What a node is; the absence of a node is an empty list. -/
def kind : Node → Kind
  | absent => .list
  | node _ k _ _ => k

/-- Where a node stands in the source. -/
def span : Node → Span
  | absent => ⟨0, 0⟩
  | node _ _ s _ => s

/-- Where a node starts. -/
def lo (n : Node) : Nat := n.span.lo

/-- Where a node ends. -/
def hi (n : Node) : Nat := n.span.hi

/-- The children of a node, in order. -/
def kids : Node → List Node
  | absent => []
  | node _ _ _ ks => ks

/-- The child at an index; one that is missing is absent. -/
def kid (n : Node) (i : Nat) : Node := n.kids.getD i absent

/-- The node is there. -/
def isPresent : Node → Bool
  | absent => false
  | node .. => true

/-- The node fills a place of the grammar, and so is a child of what contains
it. -/
def isChild (n : Node) : Bool := n.role != .plain

/-- The string that a node is, as it is spelled. -/
def str? (n : Node) : Option String :=
  match n.kind with
  | .str raw => some raw
  | _ => none

/-- The same node in another place of the grammar. -/
def asRole (r : Role) : Node → Node
  | absent => absent
  | node _ k s ks => node r k s ks

/-- An expression. -/
def expr (k : Kind) (s : Span) (ks : List Node) : Node := node .expression k s ks

/-- A statement. -/
def stmt (k : Kind) (s : Span) (ks : List Node) : Node := node .statement k s ks

/-- A list of nodes. -/
def list (ks : List Node) : Node := node .plain .list ⟨0, 0⟩ ks

mutual

/-- All nodes of a tree, each before the nodes below it. -/
def preorder : Node → List Node
  | absent => []
  | node r k s ks => node r k s ks :: preorderList ks

/-- All nodes of a list of trees. -/
def preorderList : List Node → List Node
  | [] => []
  | n :: ns => preorder n ++ preorderList ns

end

theorem preorderList_eq_flatMap (ns : List Node) : preorderList ns = ns.flatMap preorder := by
  induction ns with
  | nil => rw [preorderList, List.flatMap_nil]
  | cons n ns ih => rw [preorderList, ih, List.flatMap_cons]

end Node

end ConsoleStrip
