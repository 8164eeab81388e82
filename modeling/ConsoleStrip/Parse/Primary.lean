/-
Primary expressions, and arrow functions.

* `Parser.parenthesized`: an expression in parentheses, or the arrow function
  that starts like one;
* `Parser.primary`: an expression that no operator takes apart.
-/
import ConsoleStrip.Parse.Cover

namespace ConsoleStrip

namespace Parser

/-! ### Arrow functions -/

/-- The body of an arrow function: a block or an expression. -/
def arrowBody (self : Grammar) (isAsync simple : Bool) : Parser Tree := do
  if ← at_ .lbrace then blockBody self isAsync false true simple
  else
    within (fun c => { bodyContext isAsync false true c with
        includeIn := c.includeIn, inConditional := c.inConditional,
        colonExpected := c.colonExpected })
      (self .assign)

/-- An arrow function from its body on. -/
def arrowFrom (self : Grammar) (lo : Nat) (params : List Tree) (tps ret : Tree) (isAsync : Bool) :
    Parser Tree := do
  let body ← arrowBody self isAsync (areSimpleParams params)
  return .expr (.arrow isAsync) (← spanFrom lo) [.list params, body, tps, ret]

/-- What stands in parentheses, read again as parameters. -/
def itemsToParams (items : List Tree) (comma : Option Span) : Parser (List Tree) := do
  let many (isLast : Bool) (item : Tree) : Parser (Option Tree) := do
    let isRest := item.kind == .spread || item.kind == .rest
    if isRest && !isLast then
      report item.span .restParameterNotLast
      return none
    if isRest then
      if let some c := comma then report c .commaAfterRest
    match item.kind, item.role with
    | .spread, _ =>
      let arg ← toPattern .binding (item.kid 0)
      return some (.node .pattern .rest item.span [arg, .absent])
    | _, .pattern => return some item
    | _, _ => return some (← toPattern .binding item)
  let first ← items.dropLast.filterMapM (many false)
  match items.getLast? with
  | none => return first
  | some item => return first ++ (← many true item).toList

/-! ### Parentheses -/

/-- The item is a pattern by its type or question mark. -/
def isPatternItem (n : Tree) : Bool := n.role == .pattern

/-- The alternatives of a conditional expression, after its question mark. -/
def conditionalRest (self : Grammar) (lo : Nat) (test : Tree) : Parser Tree := do
  let yes ← within (fun c => { c with
      inConditional := true, colonExpected := true, includeIn := true }) (self .assign)
  expect .colon
  let no ← within (fun c => { c with inConditional := true, colonExpected := false }) (self .assign)
  return .expr .conditional ⟨lo, no.hi⟩ [test, yes, no]

/-- An item in parentheses: an expression, a spread, or a parameter with a
type. -/
def parenItem (self : Grammar) : Parser Tree := do
  let lo ← curLo
  modify fun s => { s with arrowStart := some lo }
  let hasAccess ← eatAccess
  let patLo ← curLo
  if hasAccess then modify fun s => { s with arrowStart := some patLo }
  let isSpread ← at_ .ellipsis
  let byName ← if isSpread then pure (← peek).shape.isFree else pure (← shape).isFree
  let arg ←
    if byName && isSpread then do
      bump
      let e ← within (fun c => { c with includeIn := true }) (self .binary)
      pure (Tree.plain .spread (← spanFrom patLo) [e])
    else if byName then do
      let e ← self .binary
      match ← shape with
      | .punct p =>
        if p.isAssign && e.kind != .arrow false && e.kind != .arrow true then
          self (.finishAssign patLo e)
        else pure e
      | _ => pure e
    else argument self
  let mut arg := arg
  let mut isOptional := false
  if ← at_ .question then
    let next := (← peek).shape
    if [Punct.comma, .assign, .rparen, .colon].any next.isPunct then
      bump
      if arg.kind == .spread then report (← prevSpan) .restOptional
      match (if arg.kind == .spread then arg.kid 0 else arg).kind with
      | .ident _ => pure ()
      | _ => fail arg.span .optionalPattern
      isOptional := true
    else if arg.kind != .spread then
      bump
      arg ← conditionalRest self lo arg
  let inner := if arg.kind == .spread then arg.kid 0 else arg
  if isOptional || (← at_ .colon) then
    let pat ← toPattern .binding inner
    let pat := if isOptional then (optionalPattern pat).getD pat else pat
    let pat :=
      if arg.kind == .spread then Tree.node .pattern .rest arg.span [pat, .absent] else pat
    let ann ← typeAnn? self
    let pat := annotated pat ann (← spanFrom patLo)
    let pat ←
      if ← eat .assign then do
        let right ← self .assign
        pure (Tree.node .pattern .assignPattern (← spanFrom patLo) [pat, right])
      else pure pat
    if hasAccess then report (← spanFrom lo) .parameterPropertyOutsideConstructor
    return pat
  if hasAccess then report (← spanFrom lo) .parameterPropertyOutsideConstructor
  return arg

/-- The items between parentheses, and a comma after the last. -/
def parenItems (self : Grammar) : Parser (List Tree × Option Span) := do
  expect .lparen
  let (acc, comma) ← loop (([] : List Tree), (none : Option Span)) fun (acc, comma) => do
    if ← at_ .rparen then return none
    let item ← parenItem self
    if ← at_ .rparen then return some (item :: acc, comma)
    expect .comma
    let isLast ← at_ .rparen
    let here ← prevSpan
    return some (item :: acc, if isLast then some here else comma)
  expect .rparen
  return (acc.reverse, comma)

/-- An expression in parentheses that is no arrow function. -/
def parenExpr (lo : Nat) (items : List Tree) : Parser Tree := do
  match items with
  | [] => fail (← spanFrom lo) .emptyParentheses
  | [e] =>
    if e.kind == .spread then fail (e.kid 0).span .spreadInParentheses
    return .expr .paren (← spanFrom lo) [e]
  | first :: rest =>
    for e in first :: rest do
      if e.kind == .spread then fail (e.kid 0).span .spreadInParentheses
    let hi := (rest.getLastD first).hi
    return .expr .paren (← spanFrom lo) [.expr .sequence ⟨first.lo, hi⟩ (first :: rest)]

/-- The arrow function itself. Operators after one with a body in braces are
reported, and the reading goes on. -/
def arrowOperand (self : Grammar) (arrow : Tree) : Parser Tree := do
  unless (← shape).isBinaryOperator && (arrow.kid 1).kind == .block do return arrow
  report (← curSpan) .semicolonExpected
  let e ← self (.operators arrow 0)
  unless ← atSemi do report (← curSpan) .semicolonExpected
  return e

/-- An expression in parentheses, or an arrow function, or a call of `async`. -/
def parenthesized (self : Grammar) (canBeArrow : Bool) (async : Option Span) : Parser Tree := do
  let here ← curLo
  let lo := (async.map Span.lo).getD here
  let isAsync := async.isSome
  let (items, comma) ← within (fun c => { c with colonExpected := false, includeIn := true })
    (parenItems self)
  let ctx ← context
  if ctx.inConditional && (← at_ .colon) then
    let arrow ← attempt do
      let ret ← self (.returnType .colon)
      expect .arrow
      let params ← itemsToParams items comma
      let arrow ← arrowFrom self lo params .absent ret isAsync
      if ctx.colonExpected && !(← at_ .colon) then unexpected "fail"
      return some arrow
    if let some a := arrow then return a
  let ret ←
    if !ctx.colonExpected && (← at_ .colon) then
      attempt do
        let ret ← self (.returnType .colon)
        unless ← at_ .arrow do unexpected "fail"
        return some ret
    else pure none
  if items.any isPatternItem || ret.isSome || (← at_ .arrow) then
    if ← afterBreak then fail (← spanFrom lo) .lineBreakBeforeArrow
    unless canBeArrow do fail (← spanFrom lo) .arrowNotAllowed
    expect .arrow
    let params ← itemsToParams items comma
    return ← arrowOperand self (← arrowFrom self lo params .absent (ret.getD .absent) isAsync)
  match async with
  | some span =>
    return .call (← spanFrom lo) (.expr (.ident "async") span []) items .absent
  | none =>
    if let some c := comma then report c .trailingComma
    parenExpr lo items

/-- `async <T>(x) => …` after the word `async`. -/
def genericAsyncArrow (self : Grammar) (lo : Nat) : Parser (Option Tree) := attempt do
  let tps ← typeParamList self .function
  expect .lparen
  let ps ← within (fun c => { c with inParameters := true, inFunction := false, inAsync := true })
    (formalParams self)
  expect .rparen
  let ret ← if ← at_ .colon then self (.returnType .colon) else pure .absent
  expect .arrow
  return some (← arrowFrom self lo (ps.map paramPattern) tps ret true)

/-! ### Primary expressions -/

/-- A function expression. -/
def functionExpr (self : Grammar) (lo : Nat) (isAsync : Bool) : Parser Tree := do
  let (id, f) ← functionFrom self lo [] isAsync true false
  return .expr .functionExpr (← spanFrom lo) [id, f]

/-- A class expression. -/
def classExpr (self : Grammar) (lo : Nat) (decorators : List Tree) : Parser Tree := do
  let parts ← self (.classTail lo decorators false false)
  return .expr .classExpr (← spanFrom lo) parts.kids

/-- What may follow `async` as an expression. -/
def asyncStart (self : Grammar) (canBeArrow : Bool) : Parser (Option Tree) := do
  let lo ← curLo
  let span ← curSpan
  let next ← peek
  if next.shape.isWord "function" && !next.afterBreak then
    bump
    return some (← functionExpr self lo true)
  if canBeArrow && next.shape.isPunct .lt && !next.afterBreak then
    let arrow ← attempt do
      bump
      genericAsyncArrow self lo
    if arrow.isSome then return arrow
  if canBeArrow && next.shape.isPunct .lparen && !next.afterBreak then
    bump
    return some (← parenthesized self true (some span))
  return none

/-- A name as an expression, or an arrow function that starts with one. -/
def nameExpr (self : Grammar) (canBeArrow : Bool) : Parser Tree := do
  let lo ← curLo
  let (name, span) ← identifierText
  let here := Tree.expr (.ident name) span []
  let onLine := canBeArrow && !(← afterBreak)
  if onLine && name == "async" && (← shape).isFree then
    let ctx ← context
    if ctx.inForHead && (← atWord "of") && !(← peekIs .arrow) then
      unless ctx.inForAwaitHead do report span .asyncInForOf
      return here
    let (arg, argSpan) ← bindingName false
    if arg == "as" && !(← at_ .arrow) then
      let t ← self .type
      return .expr .asExpr (← spanFrom lo) [here, t]
    expect .arrow
    return ← arrowFrom self lo [bindingNode arg argSpan] .absent .absent true
  if ← pure onLine <&&> eat .arrow then
    if name == "eval" || name == "arguments" then report span .evalOrArgumentsBound
    return ← arrowFrom self lo [bindingNode name span] .absent .absent false
  return here

/-- An expression that starts with a word, after decorators which start at
`start`. -/
def wordExpr (self : Grammar) (start : Nat) (decorators : List Tree) (canBeArrow : Bool)
    (w : String) (escaped : Bool) : Parser Tree := do
  let span ← curSpan
  match w with
  | "this" => bump; return .expr .this span []
  | "null" => bump; return .expr .null span []
  | "true" => bump; return .expr (.bool true) span []
  | "false" => bump; return .expr (.bool false) span []
  | "function" => functionExpr self span.lo false
  | "class" => classExpr self start decorators
  | "let" => nameExpr self canBeArrow
  | _ =>
    if w == "async" && !escaped then
      if let some e ← asyncStart self canBeArrow then return e
    unless isFreeName w do failHere .expressionExpected
    nameExpr self canBeArrow

/-- An expression that no operator takes apart. Decorators before anything
but a class are dropped. -/
def primary (self : Grammar) : Parser Tree := do
  let start ← curLo
  let canBeArrow := (← get).arrowStart == some start
  let decorators := (← self .decorators).kids
  let ⟨sh, span, _⟩ ← cur
  match sh with
  | .str raw => bump; return .expr (.str raw) span []
  | .num raw => bump; return .expr (.num raw) span []
  | .bigint raw => bump; return .expr (.bigint raw) span []
  | .template .. => template self false
  | .broken fault => throw fault
  | .punct .lbracket => arrayLiteral self
  | .punct .lbrace => objectLiteral self
  | .punct .lparen => parenthesized self canBeArrow none
  | .punct .slash | .punct .slashAssign =>
    rescan .regex
    match ← cur with
    | ⟨.regex raw, span, _⟩ => bump; return .expr (.regex raw) span []
    | ⟨.broken fault, _, _⟩ => throw fault
    | _ => failHere .expressionExpected
  | .punct .hash => return (← privateRef).asRole .expression
  | .word w escaped => wordExpr self start decorators canBeArrow w escaped
  | _ => failHere .expressionExpected

end Parser

end ConsoleStrip
