/-
Functions.

* `Parser.functionBody`: a body in braces, which a declaration may leave out;
* `Parser.functionRest`, `Parser.methodRest`: a function or method from its
  type parameters on;
* `Parser.functionFrom`: a function from the word `function` on.
-/
import ConsoleStrip.Parse.Type

namespace ConsoleStrip

namespace Parser

/-- The context of a function's body. -/
def bodyContext (isAsync isGenerator isArrow : Bool) (c : Context) : Context :=
  { c with
    inAsync := isAsync
    inGenerator := isGenerator
    inFunction := true
    inParameters := false
    hasNewTarget := c.hasNewTarget || !isArrow
    inStaticBlock := false
    breakAllowed := false
    continueAllowed := false
    includeIn := true
    inConditional := false
    colonExpected := false
    ignoreElse := false }

/-- Reads with no labels in scope. -/
def withoutLabels {α : Type} (p : Parser α) : Parser α := do
  let old := (← get).labels
  modify fun s => { s with labels := [] }
  let restore : Parser Unit := modify fun s => { s with labels := old }
  let r ← tryCatch p fun e => do
    restore
    throw e
  restore
  return r

/-- The string that a statement is, as directives are. -/
def stringStatement? (s : Node) : Option String :=
  if s.kind == .exprStmt then (s.kid 0).str? else none

/-- A statement that is a string. -/
def isStringStatement (s : Node) : Bool := (stringStatement? s).isSome

/-- A statement that says `use strict`. -/
def isUseStrict (s : Node) : Bool :=
  (stringStatement? s).any fun raw => raw == "'use strict'" || raw == "\"use strict\""

/-- The place of the directive `use strict` among the strings that a block
starts with. -/
def directiveSpan? (block : Node) : Option Span :=
  (((block.kid 0).kids.takeWhile isStringStatement).find? isUseStrict).map Node.span

/-- A body in braces. -/
def blockBody (self : Grammar) (isAsync isGenerator isArrow simple : Bool) : Parser Tree := do
  if (← context).inDeclare && (← at_ .lbrace) then report (← curSpan) .bodyInDeclaration
  let b ← withoutLabels (within (bodyContext isAsync isGenerator isArrow) (self .block))
  unless simple do
    if let some span := directiveSpan? b then report span .useStrictWithPatterns
  return b

/-- A body in braces; a declaration without a body ends like a statement. -/
def functionBody (self : Grammar) (isAsync isGenerator simple : Bool) : Parser Tree := do
  if ← notM (at_ .lbrace) <&&> eatSemi then return .absent
  blockBody self isAsync isGenerator false simple

/-- A function from its type parameters on. -/
def functionRest (self : Grammar) (lo : Nat) (decorators : List Tree)
    (params : Parser (List Tree)) (isAsync isGenerator : Bool) : Parser Tree :=
  within (fun c => { c with
      inAsync := isAsync, inGenerator := isGenerator, inStaticBlock := false,
      inClassField := false, colonExpected := false }) do
  let tps ← typeParams? self .function
  expect .lparen
  let ps ← within (fun c => { c with inParameters := true, inFunction := false }) params
  expect .rparen
  let ret ← if ← at_ .colon then self (.returnType .colon) else pure .absent
  let body ← functionBody self isAsync isGenerator (areSimpleParams ps)
  unless body.isPresent do
    for p in ps do
      if (paramPattern p).kind == .assignPattern then
        report (paramPattern p).span .defaultInDeclaration
  return .plain (.function isAsync isGenerator) (← spanFrom lo)
    [.list ps, .list decorators, body, tps, ret]

/-- A method from its type parameters on: a function that can name the members
of `super`. -/
def methodRest (self : Grammar) (lo : Nat) (decorators : List Tree)
    (params : Parser (List Tree)) (isAsync isGenerator : Bool) : Parser Tree :=
  within (fun c => { c with hasSuper := true })
    (functionRest self lo decorators params isAsync isGenerator)

/-- The body of a function. -/
def bodyOf (function : Tree) : Tree := function.kid 2

/-- A function from the word `function` on: its name and the rest. -/
def functionFrom (self : Grammar) (lo : Nat) (decorators : List Tree)
    (isAsync isExpr nameNeeded : Bool) : Parser (Tree × Tree) := do
  expectWord "function"
  let isGenerator ← eat .star
  let name : Parser Tree := do
    if nameNeeded || (← shape).isFree then bindingIdent false else return .absent
  let id ← within (fun c => { c with inClassField := false }) <|
    if isExpr then within (fun c => { c with inAsync := isAsync, inGenerator := isGenerator }) name
    else name
  let f ← within (fun c => { c with hasSuper := false })
    (functionRest self lo decorators (formalParams self) isAsync isGenerator)
  if isExpr && !(bodyOf f).isPresent then unexpected "\x7b"
  return (id, f)

/-- The parameters of a getter, which should have none. -/
def getterParams (self : Grammar) (key : Span) : Parser (List Tree) := do
  let ps ← formalParams self
  if ps.any (!isThisParam ·) then report key .getterParameter
  return ps

/-- The parameters of a setter, which should have one. -/
def setterParams (self : Grammar) (key : Span) : Parser (List Tree) := do
  let ps ← formalParams self
  if (ps.filter (!isThisParam ·)).length != 1 then report key .setterParameter
  match ps with
  | p :: _ => if (paramPattern p).kind == .rest then report (paramPattern p).span .restInSetter
  | [] => pure ()
  return ps

end Parser

end ConsoleStrip
