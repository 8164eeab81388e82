/-
Members, calls and everything else that follows an expression.

* `Parser.callArgs`: arguments in parentheses;
* `Parser.subscripts`: whatever can follow an expression, as long as it does;
* `Parser.newExpr`: `new`, or an expression with what follows it;
* `Parser.decoratorList`: decorators.
-/
import ConsoleStrip.Parse.Primary

namespace ConsoleStrip

namespace Parser

/-- Arguments in parentheses. -/
def callArgs (self : Grammar) : Parser (List Tree) := do
  expect .lparen
  let args ← within (fun c => { c with includeIn := true, colonExpected := false }) <|
    many (return !(← at_ .rparen)) do
      let a ← argument self
      unless ← at_ .rparen do expect .comma
      return a
  expect .rparen
  return args

/-- The expression is reached through `?.`. -/
def isChain : Node → Bool
  | .node _ (.optionalChain _) _ _ => true
  | .node _ .nonNull _ (e :: _) => isChain e
  | _ => false

/-- Something other than an expression that can be called: `super` or
`import`. -/
def isCalleeWord (n : Tree) : Bool := n.role == .plain

/-- A name after a dot. -/
def memberName : Parser Tree := do
  if ← at_ .hash then privateName else identName

/-- A member of an object. Members of `super` exist in methods alone. -/
def memberOfObject (obj name : Tree) (span : Span) (isOptional : Bool) : Parser Tree := do
  if isCalleeWord obj then
    unless (← context).hasSuper do report obj.span .superMisplaced
    if isOptional then fail obj.span .superMisplaced
    if let .privateName _ := name.kind then failHere .invalidSuperCall
    return .expr .superMember span [obj, name]
  if isOptional || isChain obj then
    return .expr (.optionalChain isOptional) span [.plain .member span [obj, name]]
  return .expr .member span [obj, name]

/-- A call. -/
def callOf (callee : Tree) (args : List Tree) (typeArgs : Tree) (span : Span)
    (isOptional : Bool) : Parser Tree := do
  if isOptional || (!isCalleeWord callee && isChain callee) then
    if isCalleeWord callee then fail span .superOptional
    return .expr (.optionalChain isOptional) span
      [.plain .optionalCall span [callee, .list args, typeArgs]]
  if let .importRef _ := callee.kind then
    unless args.length == 1 || args.length == 2 do report span .importArity
  return .call span callee args typeArgs

/-- A template after a tag. -/
def taggedTemplate (self : Grammar) (tag typeArgs : Tree) : Parser Tree := do
  let t ← template self true
  if isChain tag then report (← spanFrom tag.lo) .templateInOptionalChain
  return .expr .taggedTemplate (← spanFrom tag.lo) [tag, typeArgs, t.asRole .plain]

/-- The current token is a template. -/
def atTemplate : Parser Bool := do
  match ← shape with
  | .template .. => return true
  | _ => return false

/-- What looks like type arguments are some, judging by the token after them:
it is on a new line, or an operator, or cannot start an expression. -/
def typeArgsEnd : Parser Bool := do
  if ← afterBreak then return true
  match ← shape with
  | .eof => return true
  | .word w _ => return ["in", "instanceof", "as", "satisfies"].contains w
  | .punct p =>
    if [Punct.lt, .gt, .plus, .minus].contains p then return false
    if p.isBinary then return !(p == .slash)
    return !([Punct.lbrace, .lparen, .lbracket, .bang, .tilde, .inc, .dec, .atSign, .hash,
      .ellipsis].contains p)
  | _ => return false

/-- Type arguments after an expression, with what they belong to. -/
def typeArgsAfter (self : Grammar) (lo : Nat) (obj : Tree) (noCall : Bool) :
    Parser (Option (Tree × Bool)) := attempt do
  if !noCall && obj.kind == .ident "async" then
    if let some a ← genericAsyncArrow self lo then return some (a, true)
  let targs ← self .typeArgs
  if !noCall && (← at_ .lparen) then
    let args ← callArgs self
    return some (← callOf obj args targs (← spanFrom lo) false, true)
  if ← atTemplate then return some (← taggedTemplate self obj targs, true)
  if noCall && (← at_ .lparen) then return none
  if ← typeArgsEnd then
    return some (.expr .instantiation (← spanFrom lo) [obj, targs], true)
  return none

/-- How an expression may go on. -/
structure Reach where
  noCall : Bool := false
  noComputed : Bool := false

/-- One thing that follows an expression, if there is one. -/
def subscript (self : Grammar) (lo : Nat) (reach : Reach) (obj : Tree) : Parser (Option Tree) := do
  if ← notM afterBreak <&&> eat .bang then
    match obj.kind with
    | .superRef => failHere (.nonNullOf "super")
    | .importRef _ => failHere (.nonNullOf "import")
    | _ => return some (.expr .nonNull (← spanFrom lo) [obj])
  if !isCalleeWord obj && (← atLess) then
    if let some (e, _) ← typeArgsAfter self lo obj reach.noCall then return some e
  let isOptional ← eat .questionDot
  if !reach.noComputed && (← at_ .lbracket) then
    if let .importRef _ := obj.kind then failHere .importMisplaced
    let bracket ← curLo
    bump
    let e ← within (fun c => { c with includeIn := true, colonExpected := false }) (self .expr)
    expect .rbracket
    let key := Tree.plain .computed (← spanFrom bracket) [e]
    return some (← memberOfObject obj key (← spanFrom lo) isOptional)
  if (isOptional && ((← at_ .lparen) || (← atLess))) || (!reach.noCall && (← at_ .lparen)) then
    let targs ← if ← atLess then self .typeArgs else pure .absent
    let args ← callArgs self
    return some (← callOf obj args targs (← spanFrom lo) isOptional)
  if ← (if isOptional then pure true else eat .dot) then
    let name ← memberName
    if let .importRef _ := obj.kind then unexpected "meta"
    return some (← memberOfObject obj name (← spanFrom lo) isOptional)
  match obj.kind with
  | .superRef => failHere (if reach.noCall then .invalidSuperCall else .superMisplaced)
  | .importRef _ => failHere .importMisplaced
  | _ => pure ()
  if ← atTemplate then return some (← taggedTemplate self obj .absent)
  match ← shape with
  | .broken fault =>
    if fault.cause == .unterminatedTemplate then throw fault
    return none
  | _ => return none

/-- The expression is an arrow function. -/
def isArrow (e : Tree) : Bool :=
  match e.kind with
  | .arrow _ => true
  | _ => false

/-- Whatever can follow an expression, as long as it does. -/
def subscripts (self : Grammar) (base : Tree) (reach : Reach) : Parser Tree :=
  loop base fun obj => do
    if isArrow obj then return none
    subscript self base.lo reach obj

/-- `import` in an expression: a call of it, or `import.meta`. -/
def importExpr (self : Grammar) (noCall : Bool) : Parser Tree := do
  let lo ← curLo
  expectWord "import"
  if ← eat .dot then
    let name ← identName
    match name.kind with
    | .identName "meta" =>
      return ← subscripts self (.expr .importMeta (← spanFrom lo) []) { noCall }
    | .identName "source" | .identName "defer" =>
      let phase := if name.kind == .identName "source" then "source" else "defer"
      return ← subscripts self (.plain (.importRef (some phase)) (← spanFrom lo) []) {}
    | _ => unexpected "meta"
  subscripts self (.plain (.importRef none) (← spanFrom lo) []) {}

/-- `new` with what it applies to, or an expression with the members that
follow it. Calls are left to the caller, because `new a.b()` is no call of
`a.b`. -/
def newExpr (self : Grammar) (afterNew : Bool) : Parser Tree := do
  let lo ← curLo
  if ← eatWord "new" then
    if ← eat .dot then
      if ← eatWord "target" then
        let span ← spanFrom lo
        let ctx ← context
        unless ctx.hasNewTarget || ctx.inParameters || ctx.inClass do
          report span .newTargetOutsideFunction
        return ← subscripts self (.expr .newTarget span []) { noCall := true }
      unexpected "target"
    let callee ← self (.newExpr true)
    if isArrow callee then return callee
    if isChain callee then fail callee.span .constructorInOptionalChain
    let targs ←
      if ← atLess then
        attempt do
          let ts ← self .typeArgs
          unless ← at_ .lparen do unexpected "("
          return some ts
      else pure none
    let (callee, targs) := match callee.kind, targs with
      | .instantiation, none => (callee.kid 0, callee.kid 1)
      | _, t => (callee, t.getD .absent)
    if !afterNew || (← at_ .lparen) then
      let args ← if ← at_ .lparen then pure (Tree.list (← callArgs self)) else pure .absent
      let e := Tree.expr .new (← spanFrom lo) [callee, args, targs]
      return ← subscripts self e { noCall := true }
    return .expr .new (← spanFrom lo) [callee, .absent, targs]
  if ← atWord "super" then
    bump
    return ← subscripts self (.plain .superRef (← spanFrom lo) []) { noCall := true }
  if ← atWord "import" then return ← importExpr self true
  let e ← primary self
  if isArrow e then return e
  subscripts self e { noCall := true }

/-- A type that is extended or implemented: a name with members and type
arguments. -/
def heritageElement (self : Grammar) : Parser Tree := do
  let lo ← curLo
  let id ← typeName
  let e ← subscripts self (id.asRole .expression) { noCall := true, noComputed := true }
  match e.kind with
  | .instantiation => return .plain .heritage (← spanFrom lo) [e.kid 0, e.kid 1]
  | k =>
    match k with
    | .ident _ | .member => pure ()
    | _ => report (← spanFrom lo) .heritageExpression
    let args ← if ← atLess then self .typeArgs else pure .absent
    return .plain .heritage (← spanFrom lo) [e, args]

/-- A decorator. -/
def decorator (self : Grammar) : Parser Tree := do
  let lo ← curLo
  expect .atSign
  let e ←
    if ← eat .lparen then do
      let inner ← self .expr
      expect .rparen
      pure inner
    else do
      let id ← identifier
      subscripts self (id.asRole .expression) { noComputed := true }
  let targs ← if ← atLess then self .typeArgs else pure .absent
  if targs.isPresent || (← at_ .lparen) then
    let args ← callArgs self
    let call := Tree.call ⟨e.lo, ← prevHi⟩ e args targs
    return .plain .decorator (← spanFrom lo) [call]
  return .plain .decorator (← spanFrom lo) [e]

/-- Decorators. -/
def decoratorList (self : Grammar) : Parser Tree := do
  return .list (← many (at_ .atSign) (decorator self))

end Parser

end ConsoleStrip
