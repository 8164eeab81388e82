/-
Which calls are console calls.

* `Node.consoleMember?`: the member of `console` that a call calls;
* `Node.matched?`: the same, if the call is one to decide about.

A name is all that counts: whatever is spelled `console` is the console, and
other names for its members are not followed.
-/
import ConsoleStrip.Tree.Node

namespace ConsoleStrip

/-- A member of `console`: its name, or none if it is computed. -/
structure ConsoleMember where
  name : Option String
deriving Repr, DecidableEq, Inhabited

namespace Node

/-- An expression without the parentheses around it. -/
def peelParens : Node → Node
  | node _ .paren _ [e] => e.peelParens
  | e => e

/-- The member of `console` that an expression names. -/
def memberOfConsole? : Node → Option ConsoleMember
  | node .expression .member _ [node .expression (.ident "console") _ _, name] =>
    match name.kind with
    | .identName w => some ⟨some w⟩
    | _ => some ⟨none⟩
  | _ => none

/-- The node is a call. -/
def isCall (n : Node) : Bool := n.role == .expression && n.kind == .call

/-- The member of `console` that a call calls. -/
def consoleMember? (call : Node) : Option ConsoleMember :=
  if call.isCall then (call.kid 0).peelParens.memberOfConsole? else none

/-- The member of `console` that a call calls, if it is one to act on: with no
names to include, all are; else those that the list names. -/
def matched? (includes : List String) (call : Node) : Option ConsoleMember :=
  match call.consoleMember? with
  | none => none
  | some m =>
    if includes.isEmpty then some m
    else
      match m.name with
      | some w => if includes.contains w then some m else none
      | none => none

end Node

end ConsoleStrip
