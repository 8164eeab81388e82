/-
Declarations.

* `Parser.varDecl`: variables;
* `Parser.functionDecl`, `Parser.classDecl`;
* `Parser.interfaceDecl`, `Parser.typeAliasDecl`, `Parser.enumDecl`,
  `Parser.namespaceDecl`: declarations of types and namespaces;
* `Parser.typedDecl?`: a declaration that starts with a word which could also
  be a name, such as `type` or `declare`.

A declaration is read as a plain node; what contains it gives it its place.
-/
import ConsoleStrip.Parse.Expr

namespace ConsoleStrip

namespace Parser

/-! ### Variables -/

/-- A variable with its pattern, type and initial value. -/
def declarator (self : Grammar) (binding : Binding) (inFor : Bool) : Parser Tree := do
  let lo ← curLo
  let noLet := match binding with
    | .letWord | .const => true
    | _ => false
  let pat ← self (.pattern noLet)
  let isName := match pat.kind with
    | .binding .. => true
    | _ => false
  let definite ← if isName then eat .bang else pure false
  let ann ← typeAnn? self
  let whole ← spanFrom lo
  let pat := annotated pat ann (if isName then pat.span else whole)
  let node (init : Tree) : Parser Tree := do
    return .node .declarator (.declarator definite) (← spanFrom lo) [pat, init]
  if inFor && (← atAnyWord ["in", "of"]) then return ← node .absent
  if ← eat .assign then
    let init ← self .assign
    checkDefaults init
    return ← node init
  if (← context).inDeclare then return ← node .absent
  if binding == .const then
    report (← spanFrom lo) .constWithoutInit
    return ← node .absent
  unless isName do fail (← spanFrom lo) .patternWithoutInit
  node .absent

/-- Skips to the end of a statement that could not be read. -/
def skipStatement (self : Grammar) : Parser Unit := do
  discard (tryCatch (self .expr) fun _ => pure .absent)
  discard <| loop () fun _ => do
    if ← eatSemi then return none
    bump
    match ← shape with
    | .broken _ => return none
    | _ => return some ()

/-- Declarators up to the one that no comma follows. A comma before the
semicolon is reported. -/
def declarators (self : Grammar) (binding : Binding) (inFor : Bool) : Parser (List Tree) := do
  let word ← prevSpan
  let (acc, _) ← loop (([] : List Tree), true) fun (acc, first) => do
    unless first do
      unless ← eat .comma do return none
    if ← at_ .semi then
      let here ← prevSpan
      report (if here == word then ⟨here.hi, here.hi⟩ else here) .trailingComma
      return none
    return some ((← declarator self binding inFor) :: acc, false)
  return acc.reverse

/-- The head of a loop over values follows, without anything that is
declared. -/
def atBareForEach (self : Grammar) : Parser Bool := do
  unless ← atAnyWord ["in", "of"] do return false
  lookAhead do
    bump
    discard (self .assign)
    expect .rparen
    return true

/-- Variables. In the head of a loop nothing has to end them. -/
def varDecl (self : Grammar) (inFor : Bool) : Parser Tree := do
  let lo ← curLo
  let isVar ← atWord "var"
  let isLet ← atWord "let"
  bump
  let word ← prevSpan
  let binding : Binding := if isVar then .var else if isLet then .letWord else .const
  if ← pure inFor <&&> atBareForEach self then
    report ⟨word.hi, word.hi⟩ .declarationListEmpty
    return .plain (.varDecl binding false) (← spanFrom lo) []
  let decls ← within (fun c => { c with includeIn := c.includeIn || !inFor || !isVar })
    (declarators self binding inFor)
  if ← pure !inFor <&&> notM eatSemi then
    report (← curSpan) .semicolonExpected
    skipStatement self
  return .plain (.varDecl binding false) (← spanFrom lo) decls

/-- Resources after the word that declares them: names with values. -/
def usingDecl (self : Grammar) (lo : Nat) (binding : Binding) : Parser Tree := do
  let decls ← declarators self binding false
  let span ← spanFrom lo
  for d in decls do
    match (d.kid 0).kind with
    | .binding .. => pure ()
    | _ => report span .usingPattern
    unless (d.kid 1).isPresent do report span .usingWithoutInit
  expectSemi
  return .plain (.varDecl binding false) (← spanFrom lo) decls

/-- What follows makes `let` a declaration. -/
def letDeclares : Parser Bool := do
  match (← peek).shape with
  | .word w _ => return !isReserved w || w == "enum"
  | .punct p => return p == .lbracket || p == .lbrace
  | _ => return false

/-- Variables follow. -/
def atVarDecl : Parser Bool := do
  if ← atAnyWord ["var", "const"] then return true
  if ← atWord "let" then return ← letDeclares
  return false

/-- A declaration of resources follows. -/
def atUsing : Parser Bool := do
  unless ← atWord "using" do return false
  let next ← peek
  return !next.afterBreak && next.shape.isFree

/-! ### Functions and classes -/

/-- A function declaration. -/
def functionDecl (self : Grammar) (lo : Nat) (isAsync : Bool) : Parser Tree := do
  let (id, f) ← functionFrom self lo [] isAsync false true
  return .plain (.functionDecl false) (← spanFrom lo) [id, f]

/-- An asynchronous function follows. -/
def atAsyncFunction : Parser Bool := do
  unless ← atWord "async" do return false
  let next ← peek
  return next.shape.isWord "function" && !next.afterBreak

/-- A class declaration. -/
def classDecl (self : Grammar) (lo classLo : Nat) (decorators : List Tree) (isAbstract : Bool) :
    Parser Tree := do
  let parts ← self (.classTail classLo decorators isAbstract true)
  return .plain (.classDecl false) (← spanFrom lo) parts.kids

/-! ### Types and namespaces -/

/-- Passes what stands before an opening brace. -/
def skipToBrace : Parser Unit := do
  discard <| loop () fun _ => do
    if (← at_ .lbrace) || (← atEof) then return none
    bump
    return some ()

/-- An interface, after its word. -/
def interfaceDecl (self : Grammar) (lo : Nat) : Parser Tree := do
  let id ← typeName
  checkTypeName id .interfaceName
  let tps ← typeParams? self .typeDecl
  let extended ← if ← eatWord "extends" then heritageClause self else pure []
  if ← atWord "extends" then
    report (← curSpan) .extendsTwice
    skipToBrace
  let bodyLo ← curLo
  let ms ← typeMembers self
  let body := Tree.plain .interfaceBody (← spanFrom bodyLo) ms
  return .plain (.interface false) (← spanFrom lo) [id, tps, .list extended, body]

/-- A type alias, after its word. -/
def typeAliasDecl (self : Grammar) (lo : Nat) : Parser Tree := do
  let id ← typeName
  let tps ← typeParams? self .typeDecl
  unless ← eat .assign do unexpected "="
  let t ← self .type
  expectSemi
  return .plain (.typeAlias false) (← spanFrom lo) [id, tps, t]

/-- A string with the text of a template in it, between the quotes that it
has fewer of. -/
def templateString (raw : String) : String :=
  let count (c : Char) : Nat := (raw.toList.filter (· == c)).length
  let quote := if count '"' > count '\'' then '\'' else '"'
  let body := raw.toList.flatMap fun c =>
    if c == quote then ['\\', c] else if c == '\n' then ['\\', 'n'] else [c]
  String.ofList (quote :: body ++ [quote])

/-- The name of a member of an enumeration in brackets, at the bracket. -/
def computedEnumName (self : Grammar) : Parser Tree := do
  let lo ← curLo
  bump
  let e ← self .expr
  expect .rbracket
  let span ← spanFrom lo
  match e.toNode with
  | .node _ (.str raw) s _ => return .plain (.str raw) s []
  | .node _ .template _ [_, .node _ _ _ [.node _ (.templatePiece raw true) s _]] =>
    return .plain (.str (templateString raw)) s []
  | _ =>
    report span .computedEnumMember
    return .plain (.ident "") span []

/-- A member of an enumeration. -/
def enumMember (self : Grammar) : Parser Tree := do
  let lo ← curLo
  let ⟨sh, span, _⟩ ← cur
  let id ← match sh with
    | .str raw => do bump; pure (Tree.plain (.str raw) span [])
    | .num raw => do
      bump
      report span .numericEnumMember
      pure (Tree.plain (.num raw) span [])
    | .punct .lbracket => computedEnumName self
    | .broken fault => throw fault
    | _ => typeName
  if ← eat .assign then
    let init ← self .assign
    return .plain .enumMember (← spanFrom lo) [id, init]
  unless ← atAny [.comma, .rbrace] do
    let here ← curLo
    bump
    report ⟨here, here⟩ .semicolonExpected
  return .plain .enumMember (← spanFrom lo) [id, .absent]

/-- The members of an enumeration, up to the closing brace. A missing comma is
reported, and the reading goes on. -/
def enumMembers (self : Grammar) : Parser (List Tree) :=
  many (return !(← at_ .rbrace)) do
    let m ← enumMember self
    unless (← eat .comma) || (← at_ .rbrace) do
      report (← curSpan) (.expected "," (← shape).title)
    return m

/-- An enumeration, after its word. -/
def enumDecl (self : Grammar) (lo : Nat) (isConst : Bool) : Parser Tree := do
  let id ← typeName
  expect .lbrace
  let ms ← enumMembers self
  expect .rbrace
  return .plain (.enumDecl false isConst) (← spanFrom lo) [id, .list ms]

/-- The items of a namespace, in braces. -/
def namespaceBody (self : Grammar) : Parser Tree := do
  let lo ← curLo
  expect .lbrace
  let items ← many (return !(← at_ .rbrace) && !(← atEof)) (self .item)
  if ← atEof then report (← curSpan) (.expected Punct.rbrace.text "<eof>")
  else bump
  return .plain .namespaceBody (← spanFrom lo) [.items items]

/-- A namespace after its word: a name with dots, and a body. -/
def namespaceDecl (self : Grammar) (lo : Nat) : Parser Tree := do
  let id ← typeName
  let body ←
    if ← eat .dot then do
      let inner ← self (.namespaceDecl (← curLo))
      pure (Tree.plain .nestedNamespace inner.span inner.kids)
    else namespaceBody self
  return .plain (.moduleBlock false false) (← spanFrom lo) [id, body]

/-- A module whose name is a string, or the global one, at its name. -/
def ambientModule (self : Grammar) (lo : Nat) : Parser Tree := do
  let ⟨sh, span, _⟩ ← cur
  let (isGlobal, id) ← match sh with
    | .str raw => do bump; pure (false, Tree.plain (.str raw) span [])
    | _ => do
      unless ← atWord "global" do unexpected "global or a string literal"
      pure (true, ← typeName)
  let body ← if ← at_ .lbrace then namespaceBody self else do
    expectSemi
    pure .absent
  return .plain (.moduleBlock false isGlobal) (← spanFrom lo) [id, body]

/-- The same declaration as one that declares only. -/
def declared (lo : Nat) (decl : Tree) : Tree :=
  let as (k : Kind) (h : k.isCall = false := by exact .refl false) : Tree :=
    .node decl.role k ⟨lo, decl.hi⟩ decl.kids h
  match decl.kind with
  | .varDecl b _ => as (.varDecl b true)
  | .functionDecl _ => as (.functionDecl true)
  | .classDecl _ => as (.classDecl true)
  | .interface _ => as (.interface true)
  | .typeAlias _ => as (.typeAlias true)
  | .enumDecl _ c => as (.enumDecl true c)
  | .moduleBlock _ g => as (.moduleBlock true g)
  | _ => decl

/-- A declaration of a type or namespace that starts with `word`. With `next`
the word is the current token and has to be one; without, it has been passed
and may have been a name. -/
def typeDecl? (self : Grammar) (lo : Nat) (decorators : List Tree) (word : String) (next : Bool) :
    Parser (Option Tree) := do
  let step : Parser Unit := do if next then bump
  match word with
  | "abstract" =>
    if next || ((← atWord "class") && !(← afterBreak)) then
      step
      return some (← classDecl self lo lo decorators true)
    return none
  | "enum" =>
    if next || (← shape).isFree then
      step
      return some (← enumDecl self lo false)
    return none
  | "interface" =>
    if next || (← shape).isFree then
      step
      return some (← interfaceDecl self lo)
    return none
  | "module" =>
    if ← afterBreak then return none
    step
    if (← shape).isStr then return some (← ambientModule self lo)
    if next || (← shape).isFree then return some (← namespaceDecl self lo)
    return none
  | "namespace" =>
    if next || (← shape).isFree then
      step
      return some (← namespaceDecl self lo)
    return none
  | "type" =>
    if next || (!(← afterBreak) && (← shape).isFree) then
      step
      return some (← typeAliasDecl self lo)
    return none
  | _ => return none

/-- What follows `declare`. -/
def declare? (self : Grammar) (lo : Nat) (decorators : List Tree) : Parser (Option Tree) := do
  if (← context).inDeclare then report (← spanFrom lo) .declareInAmbient
  within (fun c => { c with inDeclare := true }) do
  if ← atWord "function" then return some (declared lo (← functionDecl self lo false))
  if ← atAsyncFunction then
    bump
    return some (declared lo (← functionDecl self lo true))
  if ← atWord "class" then return some (declared lo (← classDecl self lo lo decorators false))
  if (← atWord "const") && (← peekIsWord "enum") then
    bump
    bump
    return some (declared lo (← enumDecl self lo true))
  if ← atVarDecl then return some (declared lo (← varDecl self false))
  if ← atWord "global" then return some (declared lo (← ambientModule self lo))
  match ← shape with
  | .word w _ => return (← typeDecl? self lo decorators w true).map (declared lo)
  | _ => return none

/-- A declaration after an identifier that has been passed as a statement's
whole expression. -/
def typedDecl? (self : Grammar) (lo : Nat) (decorators : List Tree) (word : String) :
    Parser (Option Tree) := do
  match word with
  | "declare" => declare? self lo decorators
  | "global" =>
    if ← at_ .lbrace then
      let body ← namespaceBody self
      let id := Tree.plain (.ident "global") ⟨lo, lo + 6⟩ []
      return some (.plain (.moduleBlock false true) (← spanFrom lo) [id, body])
    return none
  | w => typeDecl? self lo decorators w false

end Parser

end ConsoleStrip
