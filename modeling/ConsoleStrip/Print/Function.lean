/-
Printed functions, classes and patterns.
-/
import ConsoleStrip.Print.Expr

namespace ConsoleStrip

namespace Emit

/-! ### Functions -/

/-- A function from its type parameters on. -/
def functionRest (s : Span) (bodyManner : Manner) (ps : Parts) : Emit Unit := do
  ps.emit 3
  punct .lparen
  ps.listed 0 .commas s
  punct .rparen
  typeAfterColon ps 4
  if ps.has 2 then
    space
    ps.emitAs 2 bodyManner
  else punct .semi

/-- A function is asynchronous; a function is a generator. -/
def functionFlags (n : Node) : Bool × Bool :=
  match n.kind with
  | .function a g => (a, g)
  | _ => (false, false)

/-- A method of an object literal. -/
def method (s : Span) (ps : Parts) : Emit Unit := do
  start s
  let (isAsync, isGenerator) := functionFlags (ps.node 1)
  wordIf isAsync "async"
  if isGenerator then punct .star
  ps.emit 0
  space
  functionRest (ps.node 1).span .body (ps.inner 1)

/-- A function with its word and name. -/
def namedFunction (s : Span) (isDeclare : Bool) (ps : Parts) : Emit Unit := do
  start s
  wordIf isDeclare "declare"
  let (isAsync, isGenerator) := functionFlags (ps.node 1)
  wordIf isAsync "async"
  write "function"
  if isGenerator then punct .star
  if ps.has 0 then
    space
    ps.emit 0
  functionRest (ps.node 1).span .body (ps.inner 1)

/-- A parameter with its decorators. -/
def param (s : Span) (ps : Parts) : Emit Unit := do
  start s
  ps.listed 0 .decorators s
  ps.emit 1
  mark s.hi

/-- The word for who may reach a member. -/
def access (m : Modifiers) : Emit Unit :=
  match m.access with
  | some w => word w
  | none => pure ()

/-- A parameter that is a property of its class. -/
def paramProperty (s : Span) (m : Modifiers) (ps : Parts) : Emit Unit := do
  leadingComments s.lo
  ps.listed 0 .decorators s
  access m
  wordIf m.isOverride "override"
  wordIf m.isReadonly "readonly"
  ps.emit 1

/-! ### Patterns -/

/-- A name that is bound, with its type. -/
def binding (s : Span) (name : String) (isOptional : Bool) (ps : Parts) : Emit Unit := do
  start s
  write name
  if isOptional then punct .question
  typeAfterColon ps 0

/-- An array pattern. -/
def arrayPattern (s : Span) (isOptional : Bool) (ps : Parts) : Emit Unit := do
  let lastHole := match (ps.node 0).kids.getLast? with
    | some n => !n.isPresent
    | none => false
  start s
  punct .lbracket
  ps.listed 0 { ListStyle.commas with lastDelimiter := lastHole } s
  punct .rbracket
  if isOptional then punct .question
  typeAfterColon ps 1
  mark s.hi

/-- An object pattern. -/
def objectPattern (s : Span) (isOptional : Bool) (ps : Parts) : Emit Unit := do
  start s
  punct .lbrace
  ps.listed 0 .names s
  punct .rbrace
  if isOptional then punct .question
  typeAfterColon ps 1
  mark s.hi

/-- A rest pattern. -/
def rest (s : Span) (ps : Parts) : Emit Unit := do
  start s
  punct .ellipsis
  ps.emit 0
  typeAfterColon ps 1

/-- A pattern with a default. -/
def assignPattern (s : Span) (ps : Parts) : Emit Unit := do
  start s
  ps.emit 0
  space
  punct .assign
  space
  ps.emit 1
  mark s.hi

/-- A property of a pattern that is named as what it binds. -/
def shorthandPattern (s : Span) (ps : Parts) : Emit Unit := do
  start s
  ps.emit 0
  if ps.has 1 then
    space
    punct .assign
    space
    ps.emit 1
  mark s.hi

/-! ### Classes -/

/-- A decorator. It ends its line. -/
def decorator (s : Span) (ps : Parts) : Emit Unit := do
  start s
  punct .atSign
  ps.emit 0
  newline
  mark s.hi

/-- Decorators, one after the other. -/
def decorators (ps : Parts) : Emit Unit := ps.forM (·.emit .whole)

/-- A class from what it extends on. -/
def classRest (s : Span) (ps : Parts) : Emit Unit := do
  if ps.has 2 then
    space
    word "extends"
    ps.emit 2
    ps.emit 4
  unless (ps.node 5).kids.isEmpty do
    space
    word "implements"
    ps.listed 5 .commas s
  space
  punct .lbrace
  ps.listed 1 .members s
  mark (s.hi - 1)
  punct .rbrace

/-- The class is abstract. -/
def isAbstractClass (n : Node) : Bool :=
  match n.kind with
  | .classBody isAbstract => isAbstract
  | _ => false

/-- A class with its word and name, and with its decorators unless they have
been printed. -/
def namedClass (s : Span) (isDeclare : Bool) (ps : Parts) (m : Manner) : Emit Unit := do
  start s
  wordIf isDeclare "declare"
  let body := ps.inner 1
  if m != .undecorated then decorators (body.inner 0)
  wordIf (isAbstractClass (ps.node 1)) "abstract"
  write "class"
  if ps.has 0 then
    space
    ps.emit 0
    body.emit 3
  classRest (ps.node 1).span body

/-- A method of a class. -/
def classMethod (s : Span) (kind : MethodKind) (m : Modifiers) (ps : Parts) : Emit Unit := do
  start s
  decorators ((ps.inner 1).inner 1)
  access m
  wordIf m.isStatic "static"
  wordIf m.isAbstract "abstract"
  wordIf m.isOverride "override"
  let (isAsync, isGenerator) := functionFlags (ps.node 1)
  wordIf isAsync "async"
  match kind with
  | .getter => word "get"
  | .setter => word "set"
  | .method => pure ()
  if isGenerator then punct .star
  ps.emit 0
  if m.isOptional then punct .question
  let isPrivate := match (ps.node 0).kind with
    | .privateName _ => true
    | _ => false
  functionRest (ps.node 1).span (if isPrivate then .body else .whole) (ps.inner 1)

/-- A constructor. -/
def constructor (s : Span) (m : Modifiers) (ps : Parts) : Emit Unit := do
  start s
  access m
  write "constructor"
  punct .lparen
  ps.listed 1 .commas s
  punct .rparen
  if ps.has 2 then ps.emit 2 else punct .semi

/-- A property of a class. -/
def classProperty (s : Span) (m : Modifiers) (isAccessor : Bool) (ps : Parts) : Emit Unit := do
  leadingComments s.lo
  mark s.lo
  decorators (ps.inner 3)
  wordIf m.isDeclare "declare"
  access m
  wordIf m.isStatic "static"
  wordIf m.isAbstract "abstract"
  wordIf m.isOverride "override"
  wordIf m.isReadonly "readonly"
  wordIf isAccessor "accessor"
  ps.emit 0
  if m.isOptional then punct .question
  if m.isDefinite then punct .bang
  typeAfterColon ps 2
  if ps.has 1 then
    space
    punct .assign
    space
    ps.emit 1
  punct .semi
  mark s.hi

/-- A static block. -/
def staticBlock (s : Span) (ps : Parts) : Emit Unit := do
  start s
  write "static"
  ps.emit 0
  mark s.hi

end Emit

end ConsoleStrip
