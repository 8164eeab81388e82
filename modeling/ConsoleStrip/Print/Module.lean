/-
Printed imports and exports.
-/
import ConsoleStrip.Print.Function

namespace ConsoleStrip

namespace Emit

/-- The attributes of an imported module. -/
def attributes (ps : Parts) (i : Nat) : Emit Unit := do
  if ps.has i then
    space
    word "with"
    ps.emit i

/-- A name with the name it is given. -/
def renamed (s : Span) (typeOnly : Bool) (ps : Parts) (first second : Nat) : Emit Unit := do
  start s
  wordIf typeOnly "type"
  if ps.has first then
    ps.emit first
    space
    word "as"
  ps.emit second
  mark s.hi

/-- All names of a module under one name. -/
def allAs (s : Span) (ps : Parts) : Emit Unit := do
  leadingComments s.lo
  punct .star
  space
  word "as"
  ps.emit 0

/-- Names in braces. -/
def bracedNames (s : Span) (ps : Parts) : Emit Unit := do
  punct .lbrace
  listing { ListStyle.names with tight := false } s ps.members
  punct .rbrace

/-- Names that are listed in braces. -/
def isListed (p : Part) : Bool :=
  match p.node.kind with
  | .importNamed .. | .exportSpecifier .. => true
  | _ => false

/-- An import. -/
def importDecl (s : Span) (typeOnly : Bool) (phase : Option String) (ps : Parts) : Emit Unit := do
  start s
  word "import"
  wordIf typeOnly "type"
  if let some w := phase then word w
  let (listed, others) := (ps.inner 0).partition isListed
  others.head?.forM (·.emit .whole)
  (others.drop 1).forM fun p => do
    punct .comma
    space
    p.emit .whole
  unless listed.isEmpty do
    unless others.isEmpty do
      punct .comma
      space
    bracedNames s listed
  unless (ps.inner 0).isEmpty do
    space
    word "from"
  ps.emit 1
  attributes ps 2
  punct .semi
  mark s.hi

/-- An export of names. -/
def exportNamed (s : Span) (typeOnly : Bool) (ps : Parts) : Emit Unit := do
  start s
  word "export"
  wordIf typeOnly "type"
  let (listed, others) := (ps.inner 0).partition isListed
  others.forM (·.emit .whole)
  if others.isEmpty || !listed.isEmpty then
    unless others.isEmpty do
      punct .comma
      space
    bracedNames s listed
  if ps.has 1 then
    space
    word "from"
    ps.emit 1
    attributes ps 2
  punct .semi
  mark s.hi

/-- An export of all names of a module. -/
def exportAll (s : Span) (typeOnly : Bool) (ps : Parts) : Emit Unit := do
  start s
  word "export"
  wordIf typeOnly "type"
  punct .star
  space
  word "from"
  ps.emit 0
  attributes ps 1
  punct .semi
  mark s.hi

/-- A default export of a function, a class or an interface. -/
def exportDefaultDecl (s : Span) (ps : Parts) : Emit Unit := do
  start s
  word "export"
  word "default"
  ps.emit 0

/-- A default export of an expression. -/
def exportDefaultExpr (s : Span) (ps : Parts) : Emit Unit := do
  start s
  word "export"
  word "default"
  ps.emit 0
  punct .semi
  mark s.hi

/-- `export` before a declaration. The decorators of a class come first. -/
def exportDecl (s : Span) (ps : Parts) : Emit Unit := do
  leadingComments s.lo
  match (ps.node 0).kind with
  | .classDecl _ => decorators (((ps.inner 0).inner 1).inner 0)
  | _ => pure ()
  mark s.lo
  word "export"
  ps.emitAs 0 .undecorated
  match (ps.node 0).kind with
  | .varDecl .. => punct .semi
  | _ => pure ()
  mark s.hi

/-- A name for a module or for a member of a namespace. -/
def importEquals (s : Span) (isExport typeOnly : Bool) (ps : Parts) : Emit Unit := do
  leadingComments s.lo
  wordIf isExport "export"
  word "import"
  wordIf typeOnly "type"
  ps.emit 0
  space
  punct .assign
  space
  ps.emit 1
  punct .semi

/-- A module by its name. -/
def externalModule (s : Span) (ps : Parts) : Emit Unit := do
  leadingComments s.lo
  write "require"
  punct .lparen
  ps.emit 0
  punct .rparen

/-- `export =`. -/
def exportAssignment (s : Span) (ps : Parts) : Emit Unit := do
  leadingComments s.lo
  word "export"
  punct .assign
  space
  ps.emit 0

end Emit

end ConsoleStrip
