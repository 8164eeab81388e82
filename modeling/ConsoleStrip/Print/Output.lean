/-
Printed text that grows.

* `Output`, `Emit`: the text printed so far, with the comments that wait to
  be printed and the places that came from the source;
* `write`, `newline`, `indent`: text, line by line;
* `mark`: notes that what follows comes from a position of the source;
* `leadingComments`, `trailingComments`: prints the comments attached to a
  position, each once.
-/
import ConsoleStrip.Comment.Attached
import ConsoleStrip.Token.Punct

namespace ConsoleStrip

/-- A place in the printed text and the position of the source that it came
from. Columns count UTF-16 units. -/
structure Mapping where
  source : Nat
  line : Nat
  column : Nat
deriving Repr, DecidableEq, Inhabited

/-- What has been printed. -/
structure Output where
  /-- The pieces of the text, last first. -/
  pieces : List String := []
  line : Nat := 0
  column : Nat := 0
  atLineStart : Bool := true
  depth : Nat := 0
  /-- A position of the source that the first text on the line comes from. -/
  pending : Option Nat := none
  /-- Mappings, last first. -/
  mappings : List Mapping := []
  /-- The comments that have not been printed. -/
  comments : Attached := {}

/-- A computation that prints. -/
abbrev Emit := StateM Output

namespace Output

/-- The number of UTF-16 units of a text. -/
def units (s : String) : Nat := s.toList.foldl (fun n c => n + utf16Size c) 0

/-- Notes a mapping at the current place, unless it is there. -/
def addMapping (o : Output) (pos : Nat) : Output :=
  let m : Mapping := ⟨pos, o.line, o.column⟩
  if (o.mappings.takeWhile (fun n => n.line == o.line && n.column == o.column)).contains m then o
  else { o with mappings := m :: o.mappings }

/-- The text that has been printed. -/
def text (o : Output) : String := String.join o.pieces.reverse

end Output

namespace Emit

/-- One step of indentation. -/
def indentStep : String := "    "

/-- Prints the indentation if the line is empty. -/
def startLine : Emit Unit :=
  modify fun o =>
    if o.atLineStart then
      let o := { o with
        pieces := List.replicate o.depth indentStep ++ o.pieces
        column := o.column + o.depth * indentStep.length
        atLineStart := false
        pending := none }
      o
    else o

/-- Prints text that stays on the line. -/
def write (s : String) : Emit Unit := do
  if s.isEmpty then return
  let waiting := (← get).pending
  let fresh := (← get).atLineStart
  startLine
  if fresh then
    if let some pos := waiting then modify (·.addMapping pos)
  modify fun o => { o with pieces := s :: o.pieces, column := o.column + Output.units s }

/-- Prints text that may go over several lines. -/
def writeLines (s : String) : Emit Unit := do
  let breaks := Source.breaksFrom 0 s.toList
  write s
  if let some last := breaks.getLast? then
    modify fun o => { o with
      line := o.line + breaks.length
      column := Output.units (String.ofList (s.toList.drop last)) }

/-- Ends the line, unless it is empty. -/
def newline : Emit Unit :=
  modify fun o =>
    if o.atLineStart then { o with pending := none }
    else { o with
      pieces := "\n" :: o.pieces
      line := o.line + 1
      column := 0
      atLineStart := true
      pending := none }

/-- Prints a blank. -/
def space : Emit Unit := write " "

/-- Prints a punctuator. -/
def punct (p : Punct) : Emit Unit := write p.text

/-- Indents what `e` prints on new lines. -/
def indent {α : Type} (e : Emit α) : Emit α := do
  modify fun o => { o with depth := o.depth + 1 }
  let a ← e
  modify fun o => { o with depth := o.depth - 1 }
  return a

/-- Notes that what follows comes from a position of the source. -/
def mark (pos : Nat) : Emit Unit :=
  modify fun o => if o.atLineStart then { o with pending := some pos } else o.addMapping pos

/-! ### Comments -/

/-- Prints a comment. -/
def comment (spaceBefore : Bool) (c : Comment) : Emit Unit := do
  if spaceBefore then space
  match c.kind with
  | .line =>
    mark c.span.lo
    writeLines "//"
    writeLines c.text
    mark c.span.hi
    newline
  | .block =>
    mark c.span.lo
    writeLines "/*"
    writeLines c.text
    mark (c.span.hi - 2)
    writeLines "*/"
    space

/-- Prints the comments that lead a position. -/
def leadingComments (pos : Nat) : Emit Unit := do
  let (here, rest) := (← get).comments.leading.partition (·.1 == pos)
  modify fun o => { o with comments := { o.comments with leading := rest } }
  for c in here do comment false c.2

/-- Prints the comments that trail a position. -/
def trailingComments (pos : Nat) (spaceBefore : Bool := true) : Emit Unit := do
  let (here, rest) := (← get).comments.trailing.partition (·.1 == pos)
  modify fun o => { o with comments := { o.comments with trailing := rest } }
  for c in here do comment spaceBefore c.2

/-- Prints without the comments that trail a position, which are left for
later. -/
def withhold (pos : Nat) (e : Emit Unit) : Emit Unit := do
  let (here, rest) := (← get).comments.trailing.partition (·.1 == pos)
  modify fun o => { o with comments := { o.comments with trailing := rest } }
  e
  modify fun o =>
    { o with comments := { o.comments with trailing := here ++ o.comments.trailing } }

/-- Some comment leads a position. -/
def hasLeading (pos : Nat) : Emit Bool :=
  return (← get).comments.leading.any (·.1 == pos)

/-- Some comment with a line break at its end or inside leads a position. -/
def hasLeadingBreak (pos : Nat) : Emit Bool :=
  return (← get).comments.leading.any fun (p, c) =>
    p == pos && (c.kind == .line || c.text.any isLineEnd)

end Emit

end ConsoleStrip
