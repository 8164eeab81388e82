/-
Taking out console calls.

* `Policy`: which calls are decided about, and what keeps one;
* `Verdict`: what was decided about a call, and where the call stood;
* `Policy.strip`: the tree without the calls that nothing keeps, and the
  verdicts in order;
* `Summary`: what the verdicts amount to.

A call that is a whole statement goes with its statement. Any other call is
replaced by `undefined`, so that what contains it stays valid. Inside a call
that is kept the decisions go on; a call that goes takes what is in it along.
-/
import ConsoleStrip.Comment.Collect
import ConsoleStrip.Strip.Marker
import ConsoleStrip.Strip.Matcher

namespace ConsoleStrip

/-- Which calls are decided about, and what keeps one. -/
structure Policy where
  includes : List String
  markers : Markers
  index : CommentIndex

/-- What was decided about a call. -/
structure Verdict where
  call : Span
  member : ConsoleMember
  /-- The call is a whole statement. -/
  isStatement : Bool
  keep : Bool
deriving Repr, DecidableEq

/-- What a rewrite amounts to. -/
structure Summary where
  removed : Nat := 0
  replaced : Nat := 0
  retained : Nat := 0
deriving Repr, DecidableEq, Inhabited

namespace Summary

/-- The number of calls that are gone. -/
def stripped (s : Summary) : Nat := s.removed + s.replaced

/-- No call is gone. -/
def isUnchanged (s : Summary) : Bool := s.stripped == 0

/-- What a list of verdicts amounts to. -/
def ofVerdicts (vs : List Verdict) : Summary where
  removed := vs.countP fun v => !v.keep && v.isStatement
  replaced := vs.countP fun v => !v.keep && !v.isStatement
  retained := vs.countP fun v => v.keep

end Summary

namespace Node

/-- The node owns an expression: comments around it speak for a call directly
in it. -/
def isOwner (n : Node) : Bool :=
  match n.role with
  | .statement | .moduleDecl | .expression | .pattern | .property | .declarator
  | .classMember => true
  | _ =>
    match n.kind with
    | .markupExpr | .markupAttr | .switchCase | .decorator => true
    | _ => false

/-- The call that is the whole of a statement, parentheses aside. -/
def statementCall? (n : Node) : Option Node :=
  match n with
  | node .statement .exprStmt _ [e] =>
    if e.peelParens.isCall then some e.peelParens else none
  | _ => none

/-- The statement that stands where one was taken out of a place that needs
one. -/
def emptyAt (s : Span) : Node := .stmt .empty s []

/-- The expression that stands where a call was taken out. -/
def undefinedAt (s : Span) : Node := .expr (.ident "undefined") s []

end Node

namespace Policy

/-- What is decided about a call whose owner is given: nothing, if it is not a
call to decide about. -/
def judge (p : Policy) (owner : Option Extent) (isStatement : Bool) (call : Node) :
    Option Verdict :=
  (call.matched? p.includes).map fun m =>
    ⟨call.span, m, isStatement, p.markers.keeps (p.index.collect call owner)⟩

/-- The outcome for a node: what stands in its place, if anything, and the
verdicts on the way. -/
abbrev Outcome := Option Node × List Verdict

mutual

/-- What becomes of a node. No node is left only of a statement that goes. -/
def visit (p : Policy) (owner : Option Extent) : Node → Outcome
  | .absent => (some .absent, [])
  | .node r k s ks =>
    let n := Node.node r k s ks
    let inside := if n.isOwner then some n.extent else owner
    let descend : Unit → Outcome := fun _ =>
      let (ks', vs) := if k == .items then visitItems p inside ks else visitAll p inside ks
      (some (.node r k s ks'), vs)
    match r with
    | .statement =>
      match n.statementCall?.bind (p.judge (some n.extent) true) with
      | none => descend ()
      | some v =>
        if v.keep then
          let (ks', vs) := visitKept p ks
          (some (.node r k s ks'), v :: vs)
        else (none, [v])
    | .expression =>
      match p.judge owner false n with
      | none => descend ()
      | some v =>
        if v.keep then
          let (out, vs) := descend ()
          (out, v :: vs)
        else (some (.undefinedAt s), [v])
    | _ => descend ()

/-- What becomes of the nodes of a list from which none can be missing. -/
def visitAll (p : Policy) (owner : Option Extent) : List Node → List Node × List Verdict
  | [] => ([], [])
  | n :: ns =>
    let (out, vs) := visit p owner n
    let (outs, ws) := visitAll p owner ns
    (out.getD (.emptyAt n.span) :: outs, vs ++ ws)

/-- What becomes of the items of a list. -/
def visitItems (p : Policy) (owner : Option Extent) : List Node → List Node × List Verdict
  | [] => ([], [])
  | n :: ns =>
    let (out, vs) := visit p owner n
    let (outs, ws) := visitItems p owner ns
    (out.toList ++ outs, vs ++ ws)

/-- What becomes of the expression of a statement whose call is kept: the
decisions go on inside the call, which is under any number of parentheses. -/
def visitKept (p : Policy) : List Node → List Node × List Verdict
  | [] => ([], [])
  | .node r .paren s ks :: rest =>
    let (ks', vs) := visitKept p ks
    (.node r .paren s ks' :: rest, vs)
  | .node r k s ks :: rest =>
    let (ks', vs) := visitAll p (some (Node.node r k s ks).extent) ks
    (.node r k s ks' :: rest, vs)
  | .absent :: rest => (.absent :: rest, [])

end

/-- A module without the calls that nothing keeps, and the verdicts in the
order in which the calls are met. -/
def strip (p : Policy) (module : Node) : Node × List Verdict :=
  let (out, vs) := p.visit none module
  (out.getD (.emptyAt module.span), vs)

end Policy

end ConsoleStrip
