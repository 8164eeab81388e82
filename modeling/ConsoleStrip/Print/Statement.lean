/-
Printed statements and declarations.
-/
import ConsoleStrip.Print.Function

namespace ConsoleStrip

namespace Emit

/-! ### Blocks -/

/-- A block. One without statements is closed on its line, unless comments
stand before its closing brace. -/
def block (s : Span) (isBody : Bool) (ps : Parts) : Emit Unit := do
  leadingComments s.lo
  unless isBody do mark s.lo
  punct .lbrace
  let isEmpty := (ps.node 0).kids.isEmpty
  if isEmpty then
    if ← hasLeading (s.hi - 1) then
      newline
      leadingComments (s.hi - 1)
  else
    ps.listed 0 .statements s
    leadingComments (s.hi - 1)
  mark (s.hi - 1)
  punct .rbrace

/-- A statement that is an expression. Comments after the expression that
also trail the statement come after its semicolon. -/
def exprStmt (s : Span) (ps : Parts) : Emit Unit := do
  start s
  if (ps.node 0).hi == s.hi then withhold s.hi (ps.emit 0) else ps.emit 0
  punct .semi

/-! ### Control -/

/-- A word and an argument. -/
def wordWithArg (s : Span) (w : String) (ps : Parts) : Emit Unit := do
  start s
  write w
  argument ps
  punct .semi

/-- A word and a label. -/
def jump (s : Span) (w : String) (ps : Parts) : Emit Unit := do
  start s
  write w
  if ps.has 0 then
    space
    ps.emit 0
  punct .semi

/-- A label and a statement. -/
def labeled (s : Span) (ps : Parts) : Emit Unit := do
  start s
  ps.emit 0
  punct .colon
  space
  ps.emit 1

/-- `if` with its alternatives. -/
def ifStmt (s : Span) (ps : Parts) : Emit Unit := do
  start s
  word "if"
  punct .lparen
  ps.emit 0
  punct .rparen
  space
  ps.emit 1
  if ps.has 2 then
    if (ps.node 1).kind == .block then space
    word "else"
    ps.emit 2

/-- A `switch` statement. -/
def switchStmt (s : Span) (ps : Parts) : Emit Unit := do
  start s
  write "switch"
  punct .lparen
  ps.emit 0
  punct .rparen
  punct .lbrace
  ps.listed 1 .members s
  mark (s.hi - 1)
  punct .rbrace

/-- A case of a `switch`. -/
def switchCase (s : Span) (ps : Parts) : Emit Unit := do
  start s
  if ps.has 0 then
    word "case"
    ps.emit 0
  else write "default"
  punct .colon
  ps.listed 1 { ListStyle.statements with closed := false } s

/-- A `try` statement. -/
def tryStmt (s : Span) (ps : Parts) : Emit Unit := do
  start s
  word "try"
  ps.emit 0
  if ps.has 1 then
    space
    ps.emit 1
  if ps.has 2 then
    space
    write "finally"
    ps.emit 2

/-- A `catch` clause. -/
def catchClause (s : Span) (ps : Parts) : Emit Unit := do
  start s
  word "catch"
  if ps.has 0 then
    punct .lparen
    ps.emit 0
    punct .rparen
  space
  ps.emit 1

/-- A `while` statement. -/
def whileStmt (s : Span) (ps : Parts) : Emit Unit := do
  start s
  write "while"
  punct .lparen
  ps.emit 0
  punct .rparen
  ps.emit 1

/-- A `with` statement. -/
def withStmt (s : Span) (ps : Parts) : Emit Unit := do
  start s
  write "with"
  punct .lparen
  ps.emit 0
  punct .rparen
  ps.emit 1

/-- A `do` statement. -/
def doWhile (s : Span) (ps : Parts) : Emit Unit := do
  start s
  word "do"
  ps.emit 1
  word "while"
  punct .lparen
  ps.emit 0
  punct .rparen
  mark s.hi

/-- A `for` statement. -/
def forStmt (s : Span) (ps : Parts) : Emit Unit := do
  start s
  write "for"
  punct .lparen
  ps.emit 0
  punct .semi
  if ps.has 1 then
    space
    ps.emit 1
  punct .semi
  if ps.has 2 then
    space
    ps.emit 2
  punct .rparen
  ps.emit 3

/-- A loop over keys. -/
def forIn (s : Span) (ps : Parts) : Emit Unit := do
  start s
  write "for"
  punct .lparen
  ps.emit 0
  space
  word "in"
  ps.emit 1
  punct .rparen
  ps.emit 2

/-- A loop over values. -/
def forOf (s : Span) (isAwait : Bool) (ps : Parts) : Emit Unit := do
  start s
  word "for"
  wordIf isAwait "await"
  punct .lparen
  ps.emit 0
  space
  word "of"
  ps.emit 1
  punct .rparen
  ps.emit 2

/-! ### Declarations -/

/-- The word of a variable declaration. -/
def bindingWord : Binding → String
  | .var => "var"
  | .letWord => "let"
  | .const => "const"
  | .using => "using"
  | .awaitUsing => "await using"

/-- Variables. -/
def varDecl (s : Span) (b : Binding) (isDeclare : Bool) (ps : Parts) : Emit Unit := do
  start s
  wordIf isDeclare "declare"
  word (bindingWord b)
  listing .commas s ps.members

/-- A variable. -/
def declarator (s : Span) (definite : Bool) (ps : Parts) : Emit Unit := do
  start s
  ps.emit 0
  if ps.has 1 then
    space
    punct .assign
    space
    ps.emit 1
  if definite then pure ()

/-- An interface. -/
def interface (s : Span) (isDeclare : Bool) (ps : Parts) : Emit Unit := do
  leadingComments s.lo
  wordIf isDeclare "declare"
  word "interface"
  ps.emit 0
  ps.emit 1
  unless (ps.node 2).kids.isEmpty do
    space
    word "extends"
    ps.listed 2 .commas s
  space
  ps.emit 3

/-- Members in braces. -/
def braced (s : Span) (style : ListStyle) (ps : Parts) : Emit Unit := do
  leadingComments s.lo
  punct .lbrace
  listing style s ps.members
  punct .rbrace

/-- A type alias. -/
def typeAlias (s : Span) (isDeclare : Bool) (ps : Parts) : Emit Unit := do
  leadingComments s.lo
  wordIf isDeclare "declare"
  word "type"
  ps.emit 0
  ps.emit 1
  space
  punct .assign
  space
  ps.emit 2
  punct .semi

/-- An enumeration. -/
def enumDecl (s : Span) (isDeclare isConst : Bool) (ps : Parts) : Emit Unit := do
  leadingComments s.lo
  wordIf isDeclare "declare"
  wordIf isConst "const"
  word "enum"
  ps.emit 0
  space
  punct .lbrace
  ps.listed 1 { ListStyle.members with delimiter := some .comma } s
  punct .rbrace

/-- A name with a value. -/
def enumMember (s : Span) (ps : Parts) : Emit Unit := do
  leadingComments s.lo
  ps.emit 0
  if ps.has 1 then
    space
    punct .assign
    space
    ps.emit 1

/-- A namespace or module. -/
def moduleBlock (s : Span) (isDeclare isGlobal : Bool) (ps : Parts) : Emit Unit := do
  leadingComments s.lo
  wordIf isDeclare "declare"
  if isGlobal then write "global"
  else
    match (ps.node 0).kind with
    | .str _ => word "module"
    | _ => word "namespace"
    ps.emit 0
  if ps.has 1 then
    if (ps.node 1).kind == .nestedNamespace then punct .dot else space
    ps.emit 1
  else punct .semi

/-- A namespace inside a name with dots. -/
def nestedNamespace (s : Span) (ps : Parts) : Emit Unit := do
  leadingComments s.lo
  ps.emit 0
  if (ps.node 1).kind == .nestedNamespace then punct .dot else space
  ps.emit 1

/-- The items of a namespace, in braces. -/
def namespaceBody (s : Span) (ps : Parts) : Emit Unit := do
  leadingComments s.lo
  punct .lbrace
  listing .members s <| (ps.inner 0).map fun item =>
    ⟨item.node.span, do
      item.emit .whole
      trailingComments item.node.hi⟩
  punct .rbrace

end Emit

end ConsoleStrip
