/-
The parts of a node that is being printed.

* `Manner`: what a node asks of a part when it prints it;
* `Part`: a child, how it is printed, and its own parts;
* `Parts.emit`, `Parts.listed`: prints a part as it is, or as a list.
-/
import ConsoleStrip.Print.Listing

namespace ConsoleStrip

/-- How a part is to be printed. -/
inductive Manner where
  | whole
  /-- A block whose opening brace belongs to what contains it. -/
  | body
  /-- A declaration without what its container has printed. -/
  | undecorated
deriving Repr, DecidableEq

/-- A child of a node, how it is printed, and its own children. -/
structure Part where
  node : Node
  emit : Manner → Emit Unit
  parts : List Part

/-- The children of a node that is being printed. -/
abbrev Parts := List Part

namespace Parts

/-- The child at an index. -/
def part (ps : Parts) (i : Nat) : Part := ps.getD i ⟨.absent, fun _ => pure (), []⟩

/-- The node at an index. -/
def node (ps : Parts) (i : Nat) : Node := (ps.part i).node

/-- The children of the child at an index. -/
def inner (ps : Parts) (i : Nat) : Parts := (ps.part i).parts

/-- There is a child at an index. -/
def has (ps : Parts) (i : Nat) : Bool := (ps.node i).isPresent

/-- Prints the child at an index. -/
def emit (ps : Parts) (i : Nat) : Emit Unit := (ps.part i).emit .whole

/-- Prints the child at an index in a manner. -/
def emitAs (ps : Parts) (i : Nat) (m : Manner) : Emit Unit := (ps.part i).emit m

/-- The children as members of a list. -/
def members (ps : Parts) : List Member :=
  ps.map fun p => ⟨p.node.span, p.emit .whole⟩

/-- Prints the list at an index, inside the node with a given span. -/
def listed (ps : Parts) (i : Nat) (style : ListStyle) (parent : Span) : Emit Unit :=
  Emit.listing style parent (ps.inner i).members

end Parts

namespace Emit

/-- Prints the comments that lead a node and marks where it starts. -/
def start (s : Span) : Emit Unit := do
  leadingComments s.lo
  mark s.lo

/-- Prints a word and the blank after it. -/
def word (w : String) : Emit Unit := do
  write w
  space

/-- Prints a word and the blank after it, if it is asked for. -/
def wordIf (b : Bool) (w : String) : Emit Unit := if b then word w else pure ()

/-- Prints a type after a colon, if there is one. -/
def typeAfterColon (ps : Parts) (i : Nat) : Emit Unit := do
  if ps.has i then
    punct .colon
    space
    ps.emit i

end Emit

end ConsoleStrip
