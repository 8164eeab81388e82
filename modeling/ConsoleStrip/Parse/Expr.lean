/-
Expressions in order of binding strength.

* `Parser.lhs`: calls and members;
* `Parser.unary`, `Parser.operators`, `Parser.binary`: operators;
* `Parser.assign`: assignments, conditionals, arrow functions and `yield`;
* `Parser.sequence`: expressions separated by commas.
-/
import ConsoleStrip.Parse.Markup

namespace ConsoleStrip

/-- The binding strength of a binary operator. -/
def Punct.precedence : Punct → Nat
  | .or | .nullish => 1
  | .and => 2
  | .pipe => 3
  | .caret => 4
  | .amp => 5
  | .eq2 | .ne | .eq3 | .ne2 => 6
  | .lt | .gt | .le | .ge => 7
  | .shl | .shr | .ushr => 8
  | .plus | .minus => 9
  | .star | .slash | .percent => 10
  | .power => 11
  | _ => 0

/-- The binding strength of `in`, `instanceof`, `as` and `satisfies`. -/
def wordPrecedence : Nat := 7

/-- The binding strength of an operator. -/
def Operator.precedence : Operator → Nat
  | .sign p => p.precedence
  | .word _ => wordPrecedence

namespace Parser

/-! ### Calls and members -/

/-- Markup starts here: a `<` before a name or a `>`. -/
def atMarkup : Parser Bool := do
  if (← read).markup && (← at_ .lt) then
    let next := (← peek).shape
    return next.word?.isSome || next.isPunct .gt
  return false

/-- An expression with the members and calls that follow it. -/
def lhs (self : Grammar) : Parser Tree := do
  let lo ← curLo
  if ← atMarkup then return ← self (.element false)
  if ← atWord "super" then
    bump
    return ← subscripts self (.plain .superRef (← spanFrom lo) []) {}
  if ← atWord "import" then return ← importExpr self false
  let callee ← self (.newExpr false)
  if isArrow callee then return callee
  let targs ←
    if ← atLess then
      attempt do
        let ts ← self .typeArgs
        return if ← at_ .lparen then some ts else none
    else pure none
  if let .node _ .new _ [_, .absent, .absent] := callee.toNode then
    if targs.isSome then expect .lparen
    return callee
  if ← at_ .lparen then
    let args ← callArgs self
    let call ← callOf callee args (targs.getD .absent) (← spanFrom lo) false
    return ← subscripts self call {}
  return callee

/-! ### Operators -/

/-- What follows the word `await`, which started at `lo`: what it waits for.
Outside asynchronous code the word may stand alone, which is reported. -/
def awaitFrom (self : Grammar) (lo : Nat) : Parser Tree := do
  let span ← spanFrom lo
  if ← at_ .star then failHere .awaitStar
  let ctx ← context
  let alone ← do
    if ctx.inAsync then pure false
    else if ← atEof then pure true
    else atAny [.rparen, .rbracket, .semi]
  if alone then
    report span .awaitAsIdentifier
    return .expr (.ident "await") span []
  if ctx.inFunction && !ctx.inAsync then report span .awaitInFunction
  if ctx.inParameters && !ctx.inFunction then report span .awaitInParameter
  let e ← self .unary
  return .expr .await (← spanFrom lo) [e]

/-- `await`, with what it waits for. -/
def awaitExpr (self : Grammar) : Parser Tree := do
  let lo ← curLo
  expectWord "await"
  awaitFrom self lo

/-- The operators that stand before their operand. -/
def unaryOperator? : Shape → Option Operator
  | .punct .plus => some (.sign .plus)
  | .punct .minus => some (.sign .minus)
  | .punct .bang => some (.sign .bang)
  | .punct .tilde => some (.sign .tilde)
  | .word "delete" _ => some (.word "delete")
  | .word "void" _ => some (.word "void")
  | .word "typeof" _ => some (.word "typeof")
  | _ => none

/-- A node that stands for an operand that could not be read. -/
def missing (pos : Nat) : Tree := .expr (.ident "") ⟨pos, pos⟩ []

/-- A type assertion in angle brackets. -/
def typeAssertion (self : Grammar) : Parser Tree := do
  let lo ← curLo
  expect .lt
  if ← eatWord "const" then
    expectGreater
    let e ← self .unary
    return .expr .constAssertion (← spanFrom lo) [e]
  let t ← self .type
  expectGreater
  let e ← self .unary
  return .expr .typeAssertion (← spanFrom lo) [e, t]

/-- An operand of a binary operator. Whatever can be an operand at all can be one
of `delete`, a name as well. -/
def unary (self : Grammar) : Parser Tree := do
  let lo ← curLo
  if !(← read).markup && (← at_ .lt) then return ← typeAssertion self
  match ← shape with
  | .punct .inc | .punct .dec =>
    let op := if ← at_ .inc then Punct.inc else .dec
    bump
    let e ← self .unary
    unless e.toNode.isSimpleTarget do report e.span .assignmentTargetNotReference
    return .expr (.update op true) ⟨lo, e.hi⟩ [e]
  | sh =>
    if let some op := unaryOperator? sh then
      bump
      let argLo := (← curLo) - 1
      let e ← tryCatch (self .unary) fun fault => do
        report fault.span fault.cause
        return missing argLo
      return .expr (.unary op) ⟨lo, e.hi⟩ [e]
    if sh.isWord "await" then return ← awaitExpr self
    let e ← lhs self
    if isArrow e then return e
    if ← afterBreak then return e
    if ← atAny [.inc, .dec] then
      let op := if ← at_ .inc then Punct.inc else .dec
      unless e.toNode.isSimpleTarget do report e.span .assignmentTargetNotReference
      bump
      return .expr (.update op false) (← spanFrom e.lo) [e]
    return e

/-- The binary operator that is the current token. -/
def binaryOperator? : Parser (Option Operator) := do
  match ← shape with
  | .punct p => return if p.isBinary then some (.sign p) else none
  | .word "in" _ => return if (← context).includeIn then some (.word "in") else none
  | .word "instanceof" _ => return some (.word "instanceof")
  | _ => return none

/-- A logical operator that may not be mixed with `??`. -/
def isLogical : Node → Bool
  | .node _ (.binary (.sign .and)) _ _ => true
  | .node _ (.binary (.sign .or)) _ _ => true
  | _ => false

/-- A use of `??`. -/
def isNullish : Node → Bool
  | .node _ (.binary (.sign .nullish)) _ _ => true
  | _ => false

/-- Reports operands that mix `??` with a logical operator. -/
def checkMixing (op : Operator) (left right : Tree) : Parser Unit := do
  match op with
  | .sign .nullish =>
    for e in [left, right] do
      if isLogical e then report e.span .nullishMixedWithLogical
  | .sign .or | .sign .and =>
    for e in [left, right] do
      if isNullish e then report e.span .nullishMixedWithLogical
  | _ => pure ()

/-- A type after `as` or `satisfies`. -/
def typedOperand (self : Grammar) (left : Tree) : Parser Tree := do
  let isAs ← atWord "as"
  bump
  if isAs && (← atWord "const") then
    bump
    return .expr .asConst (← spanFrom left.lo) [left]
  let t ← self .type
  let span ← spanFrom left.lo
  return if isAs then .expr .asExpr span [left, t] else .expr .satisfies span [left, t]

/-- Binary operators of a precedence above `min`, after their first operand. -/
def operators (self : Grammar) (left : Tree) (min : Nat) : Parser Tree :=
  loop left fun left => do
    let onLine := !(← afterBreak)
    if onLine && min < wordPrecedence && (← atWord "as") then
      return some (← typedOperand self left)
    if onLine && (← atWord "satisfies") then return some (← typedOperand self left)
    match ← binaryOperator? with
    | none => return none
    | some op =>
      if op.precedence ≤ min then return none
      bump
      let isPower := op == .sign .power
      if isPower then
        match left.kind with
        | .unary _ | .await => failHere .unaryBeforePower
        | _ => pure ()
      let first ← self .unary
      let right ← self (.operators first (if isPower then op.precedence - 1 else op.precedence))
      checkMixing op left right
      return some (.expr (.binary op) ⟨left.lo, right.hi⟩ [left, right])

/-- Operands joined by binary operators. An operand that is missing before an
operator is reported, and the reading goes on. -/
def binary (self : Grammar) : Parser Tree := do
  let lo ← curLo
  let left ← tryCatch (self .unary) fun fault => do
    match ← binaryOperator? with
    | some _ =>
      report (← curSpan) .expressionExpected
      return missing lo
    | none => throw fault
  if isArrow left then return left
  self (.operators left 0)

/-! ### Assignments and conditionals -/

/-- An assignment, after its left side; the left side itself, if no
assignment follows. -/
def finishAssign (self : Grammar) (lo : Nat) (left : Tree) : Parser Tree := do
  match ← shape with
  | .punct p =>
    if p.isAssign then
      let target ← if p == .assign then assignTarget left else updateTarget left
      bump
      let right ← self .assign
      return .expr (.assign p) (← spanFrom lo) [target, right]
    return left
  | _ => return left

/-- A token that an expression can start with, by its shape. -/
def startsExpr : Shape → Bool
  | .eof => false
  | .punct p => [Punct.lparen, .lbracket, .lbrace, .bang, .tilde, .inc, .dec, .plus, .minus, .hash,
      .atSign, .slash, .slashAssign, .star, .lt].contains p
  | .word w _ => !isReserved w || ["class", "delete", "false", "function", "import", "new", "null",
      "super", "this", "true", "typeof", "void"].contains w
  | _ => true

/-- `yield` in a generator. -/
def yieldExpr (self : Grammar) : Parser Tree := do
  let lo ← curLo
  expectWord "yield"
  let ctx ← context
  if ctx.inParameters && !ctx.inFunction then fail (← prevSpan) .yieldInParameter
  if (← atSemi) || !startsExpr (← shape) then
    return .expr (.yieldExpr false) (← spanFrom lo) [.absent]
  let delegate ← eat .star
  let e ← self .assign
  return .expr (.yieldExpr delegate) (← spanFrom lo) [e]

/-- An assignment that does not start with type parameters. -/
def assignBase (self : Grammar) : Parser Tree := do
  if (← context).inGenerator && (← atWord "yield") then return ← yieldExpr self
  let lo ← curLo
  let ⟨sh, _, _⟩ ← cur
  if let .broken fault := sh then throw fault
  modify fun s => { s with arrowStart := if sh.isName || sh.isPunct .lparen then some lo else none }
  let test ← binary self
  if isArrow test then return test
  if ← eat .question then return ← conditionalRest self lo test
  match test.kind with
  | .binary _ | .unary _ | .update .. => return test
  | _ => finishAssign self lo test

/-- An arrow function with type parameters. -/
def genericArrow (self : Grammar) : Parser (Option Tree) := attempt do
  let tps ← typeParamList self .function
  let e ← assignBase self
  match e.kind, e.kids with
  | .arrow isAsync, [ps, body, _, ret] =>
    return some (.node e.role (.arrow isAsync) ⟨tps.lo, e.hi⟩ [ps, body, tps, ret])
  | _, _ => unexpected "("

/-- An assignment, a conditional, an arrow function or `yield`. -/
def assign (self : Grammar) : Parser Tree := do
  if ← atLess then
    if (← read).markup && (← at_ .lt) then
      let e ← attempt (do return some (← assignBase self))
      if let some e := e then return e
    if (← peek).shape.word?.isSome then
      let e ← within (fun c => { c with colonExpected := false }) (genericArrow self)
      if let some e := e then return e
  assignBase self

/-- Expressions separated by commas. -/
def sequence (self : Grammar) : Parser Tree := do
  let first ← assign self
  if ← at_ .comma then
    let more ← many (eat .comma) (self .assign)
    return .expr .sequence (← spanFrom first.lo) (first :: more)
  return first

/-! ### Defaults out of place -/

mutual

/-- Where an expression gives a default to a shorthand property, which only a
pattern may do. Functions in it are not looked into. -/
def strayDefaults : Node → List Span
  | .absent => []
  | .node r k s ks =>
    match k with
    | .shorthandInit _ => s :: strayDefaultsIn ks
    | .functionExpr => if r == .expression then [] else strayDefaultsIn ks
    | .arrow _ => []
    | _ => strayDefaultsIn ks

/-- Where expressions in a list give a default to a shorthand property. -/
def strayDefaultsIn : List Node → List Span
  | [] => []
  | n :: ns => strayDefaults n ++ strayDefaultsIn ns

end

/-- Reports defaults of shorthand properties, which only patterns have. -/
def checkDefaults (e : Tree) : Parser Unit := do
  for s in strayDefaults e do report s .shorthandDefault

end Parser

end ConsoleStrip
