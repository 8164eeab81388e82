/-
Printed lists.

* `ListStyle`: how the members of a list are set apart;
* `Emit.listing`: prints a list in a style. Comments between the members are
  printed with them.
-/
import ConsoleStrip.Print.Output
import ConsoleStrip.Tree.Node

namespace ConsoleStrip

/-- How the members of a list are set apart. -/
structure ListStyle where
  /-- Each member stands on a line of its own. -/
  lines : Bool := false
  indented : Bool := false
  delimiter : Option Punct := none
  /-- Blanks inside the brackets of a list on one line. -/
  padded : Bool := false
  /-- A blank between two members on one line. -/
  spaced : Bool := false
  /-- An empty list has no line break or blank inside. -/
  tight : Bool := true
  /-- The line ends after the last member. -/
  closed : Bool := true
  /-- Comments between the members are printed. -/
  comments : Bool := true
  /-- A delimiter follows the last member. -/
  lastDelimiter : Bool := false
deriving Repr, DecidableEq, Inhabited

namespace ListStyle

/-- Members on one line, with commas. -/
def commas : ListStyle := { delimiter := some .comma, spaced := true }

/-- Statements of a block. -/
def statements : ListStyle := { lines := true, indented := true }

/-- Members of a class, interface or enumeration. -/
def members : ListStyle := { lines := true, indented := true, tight := false }

/-- Elements of a literal, one on each line, with commas. -/
def elements : ListStyle :=
  { lines := true, indented := true, delimiter := some .comma, spaced := true }

/-- Names in braces on one line. -/
def names : ListStyle := { delimiter := some .comma, spaced := true, padded := true }

/-- Things side by side. -/
def row : ListStyle := { spaced := true, comments := false }

/-- Decorators, each on a line of its own. -/
def decorators : ListStyle := { lines := true }

/-- Things without anything between them. -/
def joined : ListStyle := { comments := false }

end ListStyle

/-- A member of a list: its span, and how it is printed. -/
structure Member where
  span : Span
  emit : Emit Unit

namespace Emit

/-- Prints the comments that trail a member and have not been printed with it. -/
def commentsAfter (style : ListStyle) (parent : Span) (m : Span) : Emit Unit := do
  if style.delimiter.isSome && m.hi != parent.hi then trailingComments m.hi false

/-- Prints what separates two members. -/
def separator (style : ListStyle) (parent : Span) (previous : Span) : Emit Unit := do
  commentsAfter style parent previous
  if let some p := style.delimiter then
    if p != .comma then space
    punct p
  if style.lines then newline else if style.spaced then space

/-- Prints the members after the first. -/
def membersAfter (style : ListStyle) (parent : Span) : (previous : Span) → List Member → Emit Unit
  | previous, [] => do
    if style.lastDelimiter then
      if let some p := style.delimiter then punct p
    commentsAfter style parent previous
  | previous, m :: rest => do
    separator style parent previous
    if style.comments && !style.lines then trailingComments m.span.lo
    m.emit
    membersAfter style parent m.span rest

/-- Prints a list, without its brackets, for the node with a given span. -/
def listing (style : ListStyle) (parent : Span) (ms : List Member) : Emit Unit := do
  match ms with
  | [] =>
    unless style.tight do
      if style.lines then newline else if style.padded then space
  | m :: rest =>
    if style.lines then newline else if style.padded then space
    let body : Emit Unit := do
      if style.comments && !style.lines then trailingComments m.span.lo
      m.emit
      membersAfter style parent m.span rest
    if style.indented then indent body else body
    if style.lines && style.closed then newline else if style.padded then space

end Emit

end ConsoleStrip
