/-
Printed markup.
-/
import ConsoleStrip.Print.Part

namespace ConsoleStrip

namespace Emit

/-- An element or a fragment: its opening tag, what is in it, and its closing
tag. -/
def element (s : Span) (ps : Parts) : Emit Unit := do
  leadingComments s.lo
  ps.emit 0
  ps.listed 1 .joined s
  ps.emit 2

/-- An opening tag. -/
def openingTag (s : Span) (selfClosing : Bool) (ps : Parts) : Emit Unit := do
  leadingComments s.lo
  punct .lt
  ps.emit 0
  ps.emit 2
  unless (ps.node 1).kids.isEmpty do
    space
    ps.listed 1 .row s
  if selfClosing then punct .slash
  punct .gt

/-- A closing tag. -/
def closingTag (s : Span) (ps : Parts) : Emit Unit := do
  leadingComments s.lo
  write "</"
  ps.emit 0
  punct .gt

/-- An attribute. -/
def markupAttr (s : Span) (ps : Parts) : Emit Unit := do
  leadingComments s.lo
  ps.emit 0
  if ps.has 1 then
    punct .assign
    ps.emit 1

/-- An expression in braces. -/
def markupExpr (s : Span) (ps : Parts) : Emit Unit := do
  leadingComments s.lo
  punct .lbrace
  trailingComments (s.lo + 1)
  ps.emit 0
  punct .rbrace

/-- A spread in braces. -/
def markupSpread (s : Span) (ps : Parts) : Emit Unit := do
  leadingComments s.lo
  punct .lbrace
  punct .ellipsis
  ps.emit 0
  punct .rbrace

/-- Two names around a punctuator. -/
def markupNames (s : Span) (p : Punct) (ps : Parts) : Emit Unit := do
  leadingComments s.lo
  ps.emit 0
  punct p
  ps.emit 1

end Emit

end ConsoleStrip
