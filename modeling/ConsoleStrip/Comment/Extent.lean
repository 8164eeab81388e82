/-
The extent of a node.

* `Extent`: the span of a node, with the spans of what stands directly in it;
* `Node.childSpans`: the spans of the first nodes below a node that fill a
  place of the grammar, one on each branch, in order.
-/
import ConsoleStrip.Tree.Node

namespace ConsoleStrip

namespace Node

mutual

/-- The spans of the children that a node contributes to what contains it:
its own, or those of the first children below it. -/
def outerSpans : Node → List Span
  | absent => []
  | node r k s ks => if (node r k s ks).isChild then [s] else childSpansOf ks

/-- The spans of the children among some nodes and below them. -/
def childSpansOf : List Node → List Span
  | [] => []
  | n :: ns => outerSpans n ++ childSpansOf ns

end

end Node

/-- The span of a node, with the spans of its children. -/
structure Extent where
  span : Span
  children : List Span
deriving Repr, DecidableEq, Inhabited

/-- The extent of a node. -/
def Node.extent (n : Node) : Extent := ⟨n.span, Node.childSpansOf n.kids⟩

/-- Some child contains a span. -/
def Extent.childContains (e : Extent) (s : Span) : Bool :=
  e.children.any fun c => c.lo ≤ s.lo && s.hi ≤ c.hi

end ConsoleStrip
