/-
Printed expressions.

Each function prints one construct, given its span and its parts.
-/
import ConsoleStrip.Print.Part

namespace ConsoleStrip

namespace Emit

/-- A name or a literal. A string may go over several lines. -/
def atom (s : Span) (text : String) : Emit Unit := do
  start s
  writeLines text

/-- A word of the language, or text between tags: also its end is marked. -/
def keyword (s : Span) (text : String) : Emit Unit := do
  atom s text
  mark s.hi

/-- A name with `#` before it. -/
def privateName (s : Span) (name : String) : Emit Unit := do
  start s
  punct .hash
  mark s.lo
  write name
  mark s.hi

/-- An array literal or pattern. -/
def brackets (s : Span) (ms : Emit Unit) : Emit Unit := do
  start s
  punct .lbracket
  ms
  punct .rbracket

/-- An array literal. A hole at the end needs its comma. -/
def array (s : Span) (ps : Parts) : Emit Unit := do
  let lastHole := match ps.getLast? with
    | some p => !p.node.isPresent
    | none => false
  brackets s (listing { ListStyle.elements with lastDelimiter := lastHole } s ps.members)
  mark s.hi

/-- An object literal. One without properties is closed on its line, unless
comments stand before its closing brace; these are not printed. -/
def object (s : Span) (ps : Parts) : Emit Unit := do
  start s
  punct .lbrace
  let hasComments ← hasLeading (s.hi - 1)
  listing { ListStyle.elements with tight := !hasComments } s ps.members
  mark (s.hi - 1)
  punct .rbrace

/-- Dots and an expression. -/
def spread (s : Span) (ps : Parts) : Emit Unit := do
  start s
  punct .ellipsis
  ps.emit 0

/-- A sign before an operand that starts with the same sign needs a blank. -/
def needsBlank (op : Operator) (arg : Node) : Bool :=
  match op, arg.kind with
  | .sign .plus, .unary (.sign .plus) => true
  | .sign .minus, .unary (.sign .minus) => true
  | .sign .plus, .update .inc true => true
  | .sign .minus, .update .dec true => true
  | _, _ => false

/-- An operator before its operand. -/
def unary (s : Span) (op : Operator) (ps : Parts) : Emit Unit := do
  start s
  write op.text
  match op with
  | .word _ => space
  | .sign _ => if needsBlank op (ps.node 0) then space
  ps.emit 0

/-- An operand before or after `++` or `--`. -/
def update (s : Span) (op : Punct) (before : Bool) (ps : Parts) : Emit Unit := do
  start s
  if before then punct op
  ps.emit 0
  unless before do punct op

/-- Two operands with an operator between them. -/
def infixed (s : Span) (op : String) (ps : Parts) : Emit Unit := do
  start s
  ps.emit 0
  space
  write op
  space
  ps.emit 1

/-- The literal is a whole number in decimal digits, after which a dot is no
member's. -/
def isPlainInteger (n : Node) : Bool :=
  match n.kind with
  | .num raw => raw.toList.all fun c => c.isDigit || c == '_'
  | _ => false

/-- A name after an object: after a dot, or in brackets of its own. -/
def memberName (obj : Node) (ps : Parts) (i : Nat) (isOptional : Bool) : Emit Unit := do
  let computed := (ps.node i).kind == .computed
  if isOptional then punct .questionDot
  else unless computed do
    if isPlainInteger obj then punct .dot
    punct .dot
  ps.emit i

/-- A member of an object. -/
def member (s : Span) (ps : Parts) : Emit Unit := do
  start s
  ps.emit 0
  memberName (ps.node 0) ps 1 false
  mark s.hi

/-- A name in brackets. -/
def computed (s : Span) (ps : Parts) : Emit Unit := do
  start s
  punct .lbracket
  ps.emit 0
  punct .rbracket
  mark s.hi

/-- A conditional expression. -/
def conditional (s : Span) (ps : Parts) : Emit Unit := do
  start s
  ps.emit 0
  space
  punct .question
  space
  ps.emit 1
  space
  punct .colon
  space
  ps.emit 2

/-- Arguments in parentheses. -/
def arguments (s : Span) (ps : Parts) : Emit Unit := do
  punct .lparen
  ps.listed 1 .commas s
  punct .rparen

/-- A call. -/
def call (s : Span) (ps : Parts) : Emit Unit := do
  start s
  ps.emit 0
  ps.emit 2
  arguments s ps

/-- A member or a call in a chain, after `?.` if it is optional. -/
def optionalChain (s : Span) (isOptional : Bool) (ps : Parts) : Emit Unit := do
  leadingComments s.lo
  let base := ps.inner 0
  base.emit 0
  if (ps.node 0).kind == .member then memberName (base.node 0) base 1 isOptional
  else
    if isOptional then punct .questionDot
    arguments s base

/-- A call of a constructor. -/
def new (s : Span) (ps : Parts) : Emit Unit := do
  start s
  word "new"
  ps.emit 0
  ps.emit 2
  if ps.has 1 then arguments s ps

/-- Expressions separated by commas. -/
def sequence (s : Span) (ps : Parts) : Emit Unit := do
  start s
  listing .commas s ps.members

/-- The pieces of a template and what stands between them. -/
def interleaved : Parts → Parts → Emit Unit
  | [], _ => pure ()
  | piece :: rest, exprs => do
    piece.emit .whole
    match exprs with
    | [] => interleaved rest []
    | e :: more =>
      write "$\x7b"
      e.emit .whole
      punct .rbrace
      interleaved rest more

/-- A template: what stands in it, then its pieces. -/
def template (s : Span) (ps : Parts) : Emit Unit := do
  start s
  write "\x60"
  interleaved (ps.inner 1) (ps.inner 0)
  write "\x60"
  mark s.hi

/-- A template after a tag. -/
def taggedTemplate (s : Span) (ps : Parts) : Emit Unit := do
  start s
  ps.emit 0
  ps.emit 1
  ps.emit 2

/-- A piece of a template. -/
def templatePiece (s : Span) (raw : String) : Emit Unit := do
  unless raw.isEmpty do
    mark s.lo
    writeLines raw
    mark s.hi

/-- An arrow function. -/
def arrow (s : Span) (isAsync : Bool) (ps : Parts) : Emit Unit := do
  start s
  wordIf isAsync "async"
  ps.emit 2
  punct .lparen
  ps.listed 0 .commas s
  punct .rparen
  if ps.has 3 then
    typeAfterColon ps 3
    space
  punct .arrow
  if (ps.node 1).kind == .block then ps.emitAs 1 .body else indent (ps.emit 1)

/-- An argument after a word that a line break would part from it: it is put in
parentheses if comments bring one. -/
def argument (ps : Parts) : Emit Unit := do
  if ps.has 0 then
    if ← hasLeadingBreak (ps.node 0).lo then
      punct .lparen
      ps.emit 0
      punct .rparen
    else
      space
      ps.emit 0

/-- `yield`. -/
def yieldExpr (s : Span) (delegate : Bool) (ps : Parts) : Emit Unit := do
  start s
  write "yield"
  if delegate then punct .star
  argument ps

/-- `await`. -/
def await (s : Span) (ps : Parts) : Emit Unit := do
  start s
  word "await"
  ps.emit 0

/-- An expression in parentheses. -/
def paren (s : Span) (ps : Parts) : Emit Unit := do
  start s
  punct .lparen
  ps.emit 0
  mark (s.hi - 1)
  punct .rparen

/-- An expression with a word and a type after it. -/
def typed (s : Span) (w : String) (ps : Parts) : Emit Unit := do
  start s
  ps.emit 0
  space
  word w
  ps.emit 1

/-- A type in angle brackets before an expression. -/
def typeAssertion (s : Span) (ps : Parts) : Emit Unit := do
  leadingComments s.lo
  punct .lt
  ps.emit 1
  punct .gt
  ps.emit 0

/-- `const` in angle brackets before an expression. -/
def constAssertion (s : Span) (ps : Parts) : Emit Unit := do
  leadingComments s.lo
  write "<const>"
  ps.emit 0

/-- An expression after which something stands. -/
def withAfter (s : Span) (ps : Parts) (after : Emit Unit) : Emit Unit := do
  start s
  ps.emit 0
  after

/-! ### Properties -/

/-- A name with a default. -/
def shorthandInit (s : Span) (ps : Parts) : Emit Unit := do
  start s
  ps.emit 0
  punct .assign
  ps.emit 1

/-- A key and a value. -/
def keyValue (s : Span) (ps : Parts) : Emit Unit := do
  start s
  ps.emit 0
  punct .colon
  space
  ps.emit 1

/-- A getter of an object literal. -/
def getter (s : Span) (ps : Parts) : Emit Unit := do
  start s
  word "get"
  ps.emit 0
  space
  punct .lparen
  punct .rparen
  typeAfterColon ps 1
  space
  ps.emit 2

/-- A setter of an object literal. -/
def setter (s : Span) (ps : Parts) : Emit Unit := do
  start s
  word "set"
  ps.emit 0
  space
  punct .lparen
  if ps.has 1 then
    ps.emit 1
    punct .comma
    space
  ps.emit 2
  punct .rparen
  ps.emit 3

end Emit

end ConsoleStrip
