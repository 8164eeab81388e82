/-
Printed types, with the members of interfaces and type literals.

The positions of types are not marked; only the names and literals in them
are.
-/
import ConsoleStrip.Print.Expr

namespace ConsoleStrip

namespace Emit

/-! ### Types -/

/-- Types in angle brackets. -/
def angled (s : Span) (ps : Parts) : Emit Unit := do
  leadingComments s.lo
  punct .lt
  listing .commas s ps.members
  punct .gt

/-- A type parameter. -/
def typeParam (s : Span) (isIn isOut isConst : Bool) (ps : Parts) : Emit Unit := do
  leadingComments s.lo
  wordIf isConst "const"
  wordIf isIn "in"
  wordIf isOut "out"
  ps.emit 0
  if ps.has 1 then
    space
    word "extends"
    ps.emit 1
  if ps.has 2 then
    space
    punct .assign
    space
    ps.emit 2

/-- Parameters in parentheses. -/
def parameters (s : Span) (ps : Parts) (i : Nat) : Emit Unit := do
  punct .lparen
  ps.listed i .commas s
  punct .rparen

/-- The type of a function. -/
def functionType (s : Span) (ps : Parts) : Emit Unit := do
  leadingComments s.lo
  ps.emit 1
  parameters s ps 0
  space
  punct .arrow
  space
  ps.emit 2

/-- The type of a constructor. -/
def constructorType (s : Span) (isAbstract : Bool) (ps : Parts) : Emit Unit := do
  leadingComments s.lo
  wordIf isAbstract "abstract"
  write "new"
  if ps.has 1 then
    space
    ps.emit 1
  parameters s ps 0
  space
  punct .arrow
  space
  ps.emit 2

/-- Two parts around a punctuator. -/
def joinedBy (s : Span) (p : Punct) (ps : Parts) : Emit Unit := do
  leadingComments s.lo
  ps.emit 0
  punct p
  ps.emit 1

/-- All parts, one after the other. -/
def inOrder (s : Span) (ps : Parts) : Emit Unit := do
  leadingComments s.lo
  listing .joined s ps.members

/-- A word and a type. -/
def wordAndType (s : Span) (w : String) (ps : Parts) : Emit Unit := do
  leadingComments s.lo
  word w
  ps.emit 0
  ps.emit 1

/-- A type with a punctuator before or after it. -/
def around (s : Span) (before after : String) (ps : Parts) : Emit Unit := do
  leadingComments s.lo
  write before
  ps.emit 0
  write after

/-- A tuple type. -/
def tupleType (s : Span) (ps : Parts) : Emit Unit := do
  leadingComments s.lo
  punct .lbracket
  listing .commas s ps.members
  punct .rbracket

/-- A member of a tuple type. -/
def tupleElement (s : Span) (ps : Parts) : Emit Unit := do
  leadingComments s.lo
  if ps.has 0 then
    ps.emit 0
    punct .colon
    space
  ps.emit 1

/-- Types with an operator between them. -/
def operands (s : Span) (p : Punct) (ps : Parts) : Emit Unit := do
  leadingComments s.lo
  listing { delimiter := some p, spaced := true } s ps.members

/-- A type that depends on another. -/
def conditionalType (s : Span) (ps : Parts) : Emit Unit := do
  leadingComments s.lo
  ps.emit 0
  space
  word "extends"
  ps.emit 1
  space
  punct .question
  space
  ps.emit 2
  space
  punct .colon
  space
  ps.emit 3

/-- A member type of another type. -/
def indexedAccess (s : Span) (ps : Parts) : Emit Unit := do
  leadingComments s.lo
  ps.emit 0
  punct .lbracket
  ps.emit 1
  punct .rbracket

/-- The sign of a mark. -/
def sign : Mark → Emit Unit
  | .plus => punct .plus
  | .minus => punct .minus
  | _ => pure ()

/-- The parameter of a mapped type: its name, and what it ranges over. -/
def mappedParam (ps : Parts) : Emit Unit := do
  ps.emit 0
  if ps.has 1 then
    space
    word "in"
    ps.emit 1

/-- A mapped type. -/
def mappedType (s : Span) (readonly optional : Mark) (ps : Parts) : Emit Unit := do
  leadingComments s.lo
  punct .lbrace
  newline
  indent do
    sign readonly
    wordIf (readonly != .none) "readonly"
    punct .lbracket
    ps.emitAs 0 .undecorated
    if ps.has 1 then
      space
      word "as"
      ps.emit 1
    punct .rbracket
    sign optional
    if optional != .none then punct .question
    punct .colon
    space
    ps.emit 2
    punct .semi
    newline
  punct .rbrace

/-- The type of a value that a function has checked. -/
def typePredicate (s : Span) (asserts : Bool) (ps : Parts) : Emit Unit := do
  leadingComments s.lo
  wordIf asserts "asserts"
  ps.emit 0
  if ps.has 1 then
    space
    word "is"
    ps.emit 1

/-- A type from another module. -/
def importType (s : Span) (ps : Parts) : Emit Unit := do
  leadingComments s.lo
  write "import"
  punct .lparen
  ps.emit 0
  if ps.has 1 then
    punct .comma
    space
    ps.emit 1
  punct .rparen
  if ps.has 2 then
    punct .dot
    ps.emit 2
  ps.emit 3

/-! ### Members of types -/

/-- A name, in brackets if it is computed. -/
def memberKey (computed : Bool) (ps : Parts) : Emit Unit := do
  if computed then punct .lbracket
  ps.emit 0
  if computed then punct .rbracket

/-- A signature to call a value. -/
def callSignature (s : Span) (ps : Parts) : Emit Unit := do
  leadingComments s.lo
  ps.emit 2
  parameters s ps 0
  if ps.has 1 then
    space
    typeAfterColon ps 1
  punct .semi

/-- A signature to construct a value. -/
def constructSignature (s : Span) (ps : Parts) : Emit Unit := do
  leadingComments s.lo
  write "new"
  if ps.has 2 then
    space
    ps.emit 2
  parameters s ps 0
  typeAfterColon ps 1
  punct .semi

/-- A property. -/
def propertySignature (s : Span) (readonly computed optional : Bool) (ps : Parts) :
    Emit Unit := do
  leadingComments s.lo
  wordIf readonly "readonly"
  memberKey computed ps
  if optional then punct .question
  typeAfterColon ps 1
  punct .semi

/-- A getter. -/
def getterSignature (s : Span) (computed : Bool) (ps : Parts) : Emit Unit := do
  leadingComments s.lo
  word "get"
  memberKey computed ps
  punct .lparen
  punct .rparen
  typeAfterColon ps 1
  punct .semi

/-- A setter. -/
def setterSignature (s : Span) (computed : Bool) (ps : Parts) : Emit Unit := do
  leadingComments s.lo
  word "set"
  memberKey computed ps
  punct .lparen
  ps.emit 1
  punct .rparen
  punct .semi

/-- A method. -/
def methodSignature (s : Span) (computed optional : Bool) (ps : Parts) : Emit Unit := do
  leadingComments s.lo
  memberKey computed ps
  if optional then punct .question
  ps.emit 3
  parameters s ps 1
  typeAfterColon ps 2
  punct .semi

/-- A signature to index a value. -/
def indexSignature (s : Span) (readonly isStatic : Bool) (ps : Parts) : Emit Unit := do
  leadingComments s.lo
  wordIf isStatic "static"
  wordIf readonly "readonly"
  punct .lbracket
  ps.listed 0 .commas s
  punct .rbracket
  typeAfterColon ps 1
  punct .semi

end Emit

end ConsoleStrip
