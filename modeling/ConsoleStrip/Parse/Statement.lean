/-
Statements.

* `Parser.block`: statements in braces;
* `Parser.statement`: a statement. Some places take no declarations;
* `Parser.ifStatement`: `if` with its alternatives.
-/
import ConsoleStrip.Parse.Declaration

namespace ConsoleStrip

namespace Parser

/-! ### Blocks -/

/-- Statements up to a closing brace, which is passed. Its absence at the end
of the text is reported. -/
def blockStatements (self : Grammar) : Parser (List Tree) := do
  let ss ← many (return !(← at_ .rbrace) && !(← atEof)) (self (.statement true))
  if ← atEof then report (← curSpan) (.expected Punct.rbrace.text "<eof>")
  else bump
  return ss

/-- Statements in braces. -/
def block (self : Grammar) : Parser Tree := do
  let lo ← curLo
  expect .lbrace
  let ss ← within (fun c => { c with ignoreElse := false }) (blockStatements self)
  return .plain .block (← spanFrom lo) [.items ss]

/-! ### Control -/

/-- An expression in which `in` is an operator. -/
def fullExpr (self : Grammar) : Parser Tree :=
  within (fun c => { c with includeIn := true }) (self .expr)

/-- An expression in parentheses. -/
def condition (self : Grammar) : Parser Tree := do
  expect .lparen
  let e ← fullExpr self
  expect .rparen
  return e

/-- The body of a loop. -/
def loopBody (self : Grammar) : Parser Tree :=
  within (fun c => { c with breakAllowed := true, continueAllowed := true })
    (self (.statement false))

/-- The alternatives of an `if`, read as a chain: each is tested only if the
ones before it failed. -/
def elseChain (self : Grammar) : Parser (List Tree × Tree) := do
  let (links, last, _) ← loop (([] : List Tree), Tree.absent, false) fun (links, last, done) => do
    if done then return none
    unless ← eatWord "else" do return none
    if ← atWord "if" then
      let link ← within (fun c => { c with ignoreElse := true }) (self .ifStatement)
      return some (link :: links, last, false)
    let s ← within (fun c => { c with ignoreElse := false }) (self (.statement false))
    return some (links, s, true)
  return (links, last)

/-- Puts the links of a chain, the last one first, around its end. -/
def joinChain (last : Tree) (links : List Tree) : Tree :=
  links.foldl (fun rest link =>
    match link.kids with
    | test :: yes :: _ => .stmt .ifStmt link.span [test, yes, rest]
    | _ => link) last

/-- `if` with its alternatives. -/
def ifStatement (self : Grammar) : Parser Tree := do
  let lo ← curLo
  expectWord "if"
  let test ← within (fun c => { c with ignoreElse := false }) (condition self)
  let yes ← within (fun c => { c with ignoreElse := false })
    (self (.statement false))
  let no ←
    if (← context).ignoreElse then pure .absent
    else do
      let (links, last) ← elseChain self
      pure (joinChain last links)
  return .stmt .ifStmt (← spanFrom lo) [test, yes, no]

/-- `break` or `continue`. -/
def jump (isBreak : Bool) : Parser Tree := do
  let lo ← curLo
  bump
  let label ←
    if ← eatSemi then pure .absent
    else do
      let l ← identifier
      expectSemi
      pure l
  let span ← spanFrom lo
  let s ← get
  let known := match label.kind with
    | .ident w => s.labels.contains w
    | _ => true
  if isBreak then
    if label.isPresent && !known then report span .breakToUnknownLabel
    else if !s.ctx.breakAllowed then report span .breakOutside
    return .stmt .breakStmt span [label]
  if !s.ctx.continueAllowed then report span .continueOutside
  else if label.isPresent && !known then report span .continueToUnknownLabel
  return .stmt .continueStmt span [label]

/-- The part of a `for` head after the first semicolon. -/
def forRest (self : Grammar) : Parser (Tree × Tree) := do
  let test ← if ← eat .semi then pure .absent else do
    let e ← fullExpr self
    expect .semi
    pure e
  let update ← if ← at_ .rparen then pure .absent else fullExpr self
  return (test, update)

/-- Reports what a declaration in the head of a loop over values may not
have. -/
def checkForDecl (decl : Tree) : Parser Unit := do
  match decl.kids with
  | [d] =>
    let pat := d.kid 0
    if (d.kid 1).isPresent then report pat.span .initInForHead
    match pat.kind with
    | .binding .. => if (pat.kid 0).isPresent then report pat.span .typeInForHead
    | _ => if (pat.kid 1).isPresent then report pat.span .typeInForHead
  | _ => for d in decl.kids.drop 1 do report (d.kid 0).span .manyInForHead

/-- The head of a loop: over the values or the keys of something, or with a
test and an update. -/
inductive ForHead where
  | overValues (left right : Tree)
  | overKeys (left right : Tree)
  | counted (init test update : Tree)

/-- The head of a loop over values or keys, from `of` or `in` on. -/
def forEachHead (self : Grammar) (left : Tree) : Parser ForHead := do
  let isOf ← atWord "of"
  bump
  if isOf then
    return .overValues left (← within (fun c => { c with includeIn := true }) (self .assign))
  match left.kind with
  | .varDecl .using _ | .varDecl .awaitUsing _ => report left.span .usingInFor
  | _ => pure ()
  return .overKeys left (← fullExpr self)

/-- The head of a loop with a test and an update, from its first semicolon
on. -/
def countedHead (self : Grammar) (init : Tree) : Parser ForHead := do
  expect .semi
  let (test, update) ← forRest self
  return .counted init test update

/-- The word or words that an expression is, if they could declare resources. -/
def usingWords? (e : Node) : Option Binding :=
  match e with
  | .node _ (.ident "using") _ _ => some .using
  | .node _ .await _ [.node _ (.ident "using") _ _] => some .awaitUsing
  | _ => none

/-- A resource that a loop declares, after the words for it. -/
def loopResource (lo : Nat) (binding : Binding) : Parser Tree := do
  let (name, span) ← bindingName false
  let whole ← spanFrom lo
  let d := Tree.node .declarator (.declarator false) whole [bindingNode name span, .absent]
  return .plain (.varDecl binding false) whole [d]

/-- The head of a loop. -/
def forHead (self : Grammar) : Parser ForHead := do
  let lo ← curLo
  let atEach : Parser Bool := atAnyWord ["of", "in"]
  if ← atVarDecl then
    let decl ← varDecl self true
    unless ← atEach do return ← countedHead self decl
    checkForDecl decl
    return ← forEachHead self decl
  if ← at_ .semi then return ← countedHead self .absent
  let init ← within (fun c => { c with includeIn := false }) (self .expr)
  if let some binding := usingWords? init then
    let next := (← peek).shape
    if !(← atWord "of") && (next.isWord "of" || next.isWord "in") then
      return ← forEachHead self (← loopResource lo binding)
  unless ← atEach do return ← countedHead self init
  let pat ← toPattern .assign init
  if ← atWord "in" then
    match pat.kind with
    | .binding .. | .exprPattern => pure ()
    | _ => report pat.span .patternInForIn
  forEachHead self pat

/-- A `for` statement. -/
def forStatement (self : Grammar) : Parser Tree := do
  let lo ← curLo
  expectWord "for"
  let awaitSpan ← curSpan
  let isAwait ← eatWord "await"
  expect .lparen
  let head ←
    within (fun c => { c with inForHead := true, inForAwaitHead := isAwait }) (forHead self)
  expect .rparen
  let body ← loopBody self
  match head with
  | .overValues left right => return .stmt (.forOf isAwait) (← spanFrom lo) [left, right, body]
  | .overKeys left right =>
    if isAwait then fail awaitSpan .awaitInFor
    return .stmt .forIn (← spanFrom lo) [left, right, body]
  | .counted init test update =>
    if isAwait then fail awaitSpan .awaitInFor
    return .stmt .forStmt (← spanFrom lo) [init, test, update, body]

/-- The cases of a `switch`. -/
def switchCase (self : Grammar) (seenDefault : Bool) : Parser (Tree × Bool) := do
  let lo ← curLo
  let isCase ← atWord "case"
  bump
  let test ←
    if isCase then fullExpr self
    else do
      if seenDefault then failHere .multipleDefaults
      pure .absent
  expect .colon
  let ss ← many (do return !(← atAnyWord ["case", "default"]) && !(← at_ .rbrace))
    (self (.statement true))
  return (.plain .switchCase (← spanFrom lo) [test, .items ss], seenDefault || !isCase)

/-- A `switch` statement. -/
def switchStatement (self : Grammar) : Parser Tree := do
  let lo ← curLo
  expectWord "switch"
  let e ← condition self
  expect .lbrace
  let (cases, _) ← within (fun c => { c with breakAllowed := true }) <|
    loop (([] : List Tree), false) fun (acc, seen) => do
      unless ← atAnyWord ["case", "default"] do return none
      let (c, seen) ← switchCase self seen
      return some (c :: acc, seen)
  expect .rbrace
  return .stmt .switchStmt (← spanFrom lo) [e, .list cases.reverse]

/-- A `catch` clause, if there is one. -/
def catchClause (self : Grammar) : Parser Tree := do
  let lo ← curLo
  unless ← eatWord "catch" do return .absent
  let param ←
    if ← eat .lparen then do
      let pat ← self (.pattern false)
      let ann ← typeAnn? self
      let pat := annotated pat ann (match pat.kind with
        | .binding .. => pat.span
        | _ => ⟨pat.lo, ann.hi⟩)
      expect .rparen
      pure pat
    else pure .absent
  let body ← self .block
  return .plain .catchClause (← spanFrom lo) [param, body]

/-- A `finally` block, if there is one. -/
def finallyBlock (self : Grammar) : Parser Tree := do
  if ← eatWord "finally" then self .block else return .absent

/-- A `try` statement. -/
def tryStatement (self : Grammar) : Parser Tree := do
  let lo ← curLo
  expectWord "try"
  let body ← self .block
  let here ← curLo
  let handler ← catchClause self
  let last ← finallyBlock self
  unless handler.isPresent || last.isPresent do report ⟨here, here⟩ .semicolonExpected
  return .stmt .tryStmt (← spanFrom lo) [body, handler, last]

/-- A statement after a label. -/
def labeledStatement (self : Grammar) (lo : Nat) (label : String) (span : Span) : Parser Tree := do
  let labels := (← get).labels
  modify fun s => { s with labels := label :: labels }
  let body ← within (fun c => { c with breakAllowed := true }) do
    if ← atWord "function" then
      let f ← functionDecl self (← curLo) false
      report f.span .labelledFunction
      match (f.kid 1).kind with
      | .function a g => if a || g then report f.span .labelledGenerator
      | _ => pure ()
      return f.asRole .statement
    self (.statement false)
  if labels.contains label then report span (.duplicateLabel label)
  modify fun s => { s with labels }
  return .stmt .labeled (← spanFrom lo) [.plain (.ident label) span [], body]

/-! ### Statements -/

/-- A statement that is an expression, a label or a declaration that starts
with a name. -/
def expressionStatement (self : Grammar) (lo : Nat) (decorators : List Tree) : Parser Tree := do
  let e ← fullExpr self
  if let .node .expression (.ident name) span _ := e.toNode then
    if ← eat .colon then return ← labeledStatement self lo name span
    if let some d ← typedDecl? self lo decorators name then return d.asRole .statement
    if ← pure (name == "abstract") <&&> eatWord "interface" then
      report span .interfaceName
      return (← interfaceDecl self lo).asRole .statement
  else checkDefaults e
  if ← eatSemi then return .stmt .exprStmt (← spanFrom lo) [e]
  if (← shape).isBinaryOperator then
    report (← curSpan) .semicolonExpected
    let e ← self (.operators e 0)
    return .stmt .exprStmt (← spanFrom lo) [e]
  failHere .semicolonOrEndExpected

/-- An expression that starts with `import` as a statement. What follows it
starts the next one. -/
def importStatement (self : Grammar) (lo : Nat) : Parser Tree := do
  let e ← self .expr
  discard eatSemi
  return .stmt .exprStmt (← spanFrom lo) [e]

/-- A statement that starts with `await`: resources, or what is waited for
with the operators after it. What follows starts the next statement. -/
def awaitStatement (self : Grammar) (lo : Nat) : Parser Tree := do
  expectWord "await"
  if (← atUsing) then
    bump
    return (← usingDecl self lo .awaitUsing).asRole .statement
  let e ← awaitFrom self lo
  let e ← within (fun c => { c with includeIn := true }) (self (.operators e 0))
  discard eatSemi
  return .stmt .exprStmt (← spanFrom lo) [e]

/-- A word follows the current token on its line. -/
def atWordOnLine : Parser Bool := do
  let next ← peek
  return next.shape.word?.isSome && !next.afterBreak

/-- A statement that starts with a word of its own, if there is one. -/
def keywordStatement? (self : Grammar) (lo : Nat) (declarations : Bool) (decorators : List Tree)
    (w : String) : Parser (Option Tree) := do
  match w with
  | "break" => return some (← jump true)
  | "continue" => return some (← jump false)
  | "debugger" =>
    bump
    expectSemi
    return some (.stmt .debugger (← spanFrom lo) [])
  | "do" =>
    bump
    let body ← loopBody self
    expectWord "while"
    let test ← condition self
    discard (eat .semi)
    return some (.stmt .doWhile (← spanFrom lo) [test, body])
  | "for" => return some (← forStatement self)
  | "if" => return some (← ifStatement self)
  | "return" =>
    bump
    let arg ← if ← eatSemi then pure .absent else do
      let e ← fullExpr self
      expectSemi
      pure e
    unless (← context).inFunction do report (← spanFrom lo) .returnOutsideFunction
    return some (.stmt .returnStmt (← spanFrom lo) [arg])
  | "switch" => return some (← switchStatement self)
  | "throw" =>
    bump
    if ← afterBreak then failHere .lineBreakAfterThrow
    let e ← fullExpr self
    expectSemi
    return some (.stmt .throwStmt (← spanFrom lo) [e])
  | "try" => return some (← tryStatement self)
  | "catch" | "finally" =>
    report (← curSpan) .semicolonExpected
    discard (catchClause self)
    discard (finallyBlock self)
    return some (.stmt .empty (← spanFrom lo) [])
  | "while" =>
    bump
    let test ← condition self
    let body ← loopBody self
    return some (.stmt .whileStmt (← spanFrom lo) [test, body])
  | "with" =>
    report (← curSpan) .withStatement
    bump
    let e ← condition self
    let body ← self (.statement false)
    return some (.stmt .withStmt (← spanFrom lo) [e, body])
  | "function" =>
    unless declarations do report (← curSpan) .declarationNotAllowed
    return some ((← functionDecl self lo false).asRole .statement)
  | "class" =>
    unless declarations do report (← curSpan) .declarationNotAllowed
    return some ((← classDecl self lo lo decorators false).asRole .statement)
  | "var" => return some ((← varDecl self false).asRole .statement)
  | "const" =>
    if ← peekIsWord "enum" then
      bump
      bump
      return some ((← enumDecl self lo true).asRole .statement)
    unless declarations do return none
    return some ((← varDecl self false).asRole .statement)
  | "let" =>
    if declarations && (← letDeclares) then
      return some ((← varDecl self false).asRole .statement)
    return none
  | "using" =>
    if declarations && (← atUsing) then
      bump
      return some ((← usingDecl self lo .using).asRole .statement)
    return none
  | "await" => if declarations then return some (← awaitStatement self lo) else return none
  | "enum" =>
    unless ← atWordOnLine do return none
    bump
    return some ((← enumDecl self lo false).asRole .statement)
  | "interface" =>
    unless ← atWordOnLine do return none
    bump
    return some ((← interfaceDecl self lo).asRole .statement)
  | "type" =>
    unless ← atWordOnLine do return none
    bump
    return some ((← typeAliasDecl self lo).asRole .statement)
  | "async" =>
    if ← atAsyncFunction then
      unless declarations do report (← curSpan) .declarationNotAllowed
      bump
      return some ((← functionDecl self lo true).asRole .statement)
    return none
  | _ => return none

/-- A statement, after its decorators. -/
def plainStatement (self : Grammar) (lo : Nat) (declarations : Bool) (decorators : List Tree) :
    Parser Tree := do
  match ← shape with
  | .punct .lbrace => return (← self .block).asRole .statement
  | .punct .semi =>
    bump
    return .stmt .empty (← spanFrom lo) []
  | .word w _ =>
    if let some s ← keywordStatement? self lo declarations decorators w then return s
    expressionStatement self lo decorators
  | _ => expressionStatement self lo decorators

/-- A statement inside another construct. -/
def statement (self : Grammar) (declarations : Bool) : Parser Tree := do
  let lo ← curLo
  let decorators := (← self .decorators).kids
  if ← atWord "export" then failHere .importExportNotTopLevel
  if ← atWord "import" then
    let next := (← peek).shape
    unless next.isPunct .lparen || next.isPunct .dot do failHere .importExportNotTopLevel
    return ← importStatement self (← curLo)
  plainStatement self lo declarations decorators

end Parser

end ConsoleStrip
