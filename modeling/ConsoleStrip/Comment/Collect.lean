/-
The comments that speak for a call.

* `CommentIndex.collect`: the comments before, after and inside a call, and
  around and inside each of its arguments. Where the call has none before it,
  after it or inside it, those of its owner take their place.
-/
import ConsoleStrip.Comment.Index

namespace ConsoleStrip

/-- The arguments of a call. -/
def Node.arguments (call : Node) : List Node := (call.kid 1).kids

/-- The expression of an argument, without the dots of a spread. -/
def Node.argumentExpr (arg : Node) : Node :=
  match arg with
  | .node _ .spread _ [e] => e
  | e => e

namespace CommentIndex

/-- The call's own comments, or else the owner's. -/
def orOwner (own : List Comment) (owner : Option Extent) (f : Extent → List Comment) :
    List Comment :=
  match owner with
  | some e => if own.isEmpty then f e else own
  | none => own

/-- The comments around and inside an argument. -/
def ofArgument (idx : CommentIndex) (arg : Node) : List Comment :=
  idx.leading arg.lo ++ idx.interior arg.argumentExpr.extent ++ idx.trailing arg.hi

/-- The comments that speak for a call. -/
def collect (idx : CommentIndex) (call : Node) (owner : Option Extent) : List Comment :=
  let own := call.extent
  orOwner (idx.leading own.span.lo) owner (fun e => idx.leading e.span.lo)
    ++ orOwner (idx.trailing own.span.hi) owner (fun e => idx.trailing e.span.hi)
    ++ orOwner (idx.interior own) owner idx.interior
    ++ call.arguments.flatMap idx.ofArgument

end CommentIndex

end ConsoleStrip
