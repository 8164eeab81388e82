/-
What can be asked of the grammar.

* `Goal`: the constructs that contain each other. Every one is read as a
  `Tree`;
* `Grammar`: a reader of all goals. Each rule of the grammar takes one for
  the constructs inside it.
-/
import ConsoleStrip.Parse.Monad
import ConsoleStrip.Tree.Shape

namespace ConsoleStrip

/-- A construct that rules of the grammar ask for. -/
inductive Goal where
  | expr
  | assign
  | binary
  | unary
  | lhs
  | newExpr (afterNew : Bool)
  /-- Binary operators of a precedence above `min`, after their first operand. -/
  | operators (left : Tree) (min : Nat)
  /-- An assignment operator, after its target. -/
  | finishAssign (lo : Nat) (left : Tree)
  | pattern (noLet : Bool)
  | type
  | nonConditionalType
  | prefixedType
  | returnType (sign : Punct)
  | typeArgs
  /-- A type that is extended or implemented. -/
  | heritage
  /-- Decorators, as a list. -/
  | decorators
  /-- An element of markup; what follows a nested one is text. -/
  | element (nested : Bool)
  | block
  | statement (declarations : Bool)
  | ifStatement
  | item
  | namespaceDecl (lo : Nat)
  | classTail (lo : Nat) (decorators : List Tree) (isAbstract : Bool) (named : Bool)

/-- A reader of every construct. -/
abbrev Grammar := Goal → Parser Tree

end ConsoleStrip
