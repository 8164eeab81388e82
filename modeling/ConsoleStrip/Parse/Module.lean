/-
Imports, exports and whole files.

* `Parser.importDecl`, `Parser.exportDecl`;
* `Parser.item`: a statement, an import or an export;
* `Parser.file`: a whole file.
-/
import ConsoleStrip.Parse.Statement

namespace ConsoleStrip

namespace Parser

/-- A declaration in the place of one of a module. -/
def moduleDeclOf (k : Kind) (s : Span) (ks : List Tree)
    (h : k.isCall = false := by exact .refl false) : Tree :=
  .node .moduleDecl k s ks h

/-- A string. -/
def stringNode : Parser Tree := do
  match ← cur with
  | ⟨.str raw, span, _⟩ =>
    bump
    return .plain (.str raw) span []
  | _ => unexpected "a string literal"

/-- The attributes of an import, if there are some. -/
def importAttributes (self : Grammar) : Parser Tree := do
  if !(← afterBreak) && (← atAnyWord ["with", "assert"]) then
    bump
    return (← objectLiteral self).asRole .plain
  return .absent

/-- `from` with a module, its attributes, and the end of the statement. -/
def fromClause (self : Grammar) : Parser (Tree × Tree) := do
  expectWord "from"
  let src ← stringNode
  let attributes ← importAttributes self
  expectSemi
  return (src, attributes)

/-- The name of something that a module exports: a word or a string. -/
def exportName : Parser Tree := do
  match ← cur with
  | ⟨.str raw, span, _⟩ =>
    bump
    return .plain (.str raw) span []
  | ⟨.word .., _, _⟩ => typeName
  | _ => unexpected "identifier or string"

/-! ### Imports -/

/-- `import a = b` or `import a = require("b")`, after the name. -/
def importEquals (lo : Nat) (id : Tree) (isExport typeOnly : Bool) : Parser Tree := do
  expect .assign
  let ref ←
    if (← atWord "require") && (← peekIs .lparen) then do
      let refLo ← curLo
      bump
      expect .lparen
      let s ← stringNode
      expect .rparen
      pure (Tree.plain .externalModule (← spanFrom refLo) [s])
    else entityName false
  expectSemi
  return moduleDeclOf (.importEquals isExport typeOnly) (← spanFrom lo) [id, ref]

/-- The text between the quotes of a string. -/
def stringText (raw : String) : String :=
  String.ofList ((raw.toList.drop 1).dropLast)

/-- The text of a name. -/
def nameOf (n : Tree) : String :=
  match n.kind with
  | .ident w => w
  | _ => ""

/-- A name that an import or export lists between braces. -/
structure ListedName where
  name : Tree
  /-- Its other name, on the far side of `as`. -/
  other : Tree := .absent
  /-- Where the word stands that makes it a type. -/
  typeSpan : Option Span := none

/-- One of the names that an import or export lists. Here `type`, which may be
a name as well, is taken apart. -/
def listedName (other : Parser Tree) : Parser ListedName := do
  let first ← exportName
  let rest (name : Tree) (typeSpan : Option Span) : Parser ListedName := do
    if ← eatWord "as" then return { name, other := ← other, typeSpan }
    return { name, typeSpan }
  unless nameOf first == "type" && (← atAnyName) do return ← rest first none
  let typeSpan := some first.span
  unless ← atWord "as" do return ← rest (← typeName) typeSpan
  let second ← typeName
  unless ← atAnyName do return { name := second, typeSpan }
  let third ← other
  unless nameOf third == "as" && (← atAnyName) do return { name := first, other := third }
  return { name := second, other := ← other, typeSpan }

/-- A name that an import lists. -/
def importSpecifier (typeOnly : Bool) : Parser Tree := do
  let lo ← curLo
  let n ← listedName (bindingIdent false)
  unless n.other.isPresent do
    if let .str raw := n.name.kind then fail n.name.span (.importedString (stringText raw))
    unless isFreeName (nameOf n.name) do fail n.name.span .reservedImport
  if let some span := n.typeSpan then
    if typeOnly then report span .importedTypeTwice
  let kids := if n.other.isPresent then [n.other, n.name] else [n.name, .absent]
  return .plain (.importNamed n.typeSpan.isSome) (← spanFrom lo) kids

/-- What an import starts with. -/
structure ImportHead where
  typeOnly : Bool := false
  phase : Option String := none
  /-- The name for the default export, if there is one. -/
  default : Option Tree := none

/-- What an import starts with: a name for the default export, or words that
say what is imported. -/
def importHead : Parser ImportHead := do
  unless (← shape).isFree do return {}
  let first ← bindingIdent false
  let isListed : Parser Bool := atAny [.lbrace, .star]
  let (typeOnly, name) ←
    if nameOf first != "type" then pure (false, first)
    else if ← isListed then return { typeOnly := true }
    else if !(← shape).isFree then pure (false, first)
    else if !(← atWord "from") || (← peekIsWord "from") then do
      pure (true, ← bindingIdent false)
    else if ← peekIs .assign then do pure (true, ← typeName)
    else pure (false, first)
  if ← at_ .assign then return { typeOnly, default := name }
  let word := nameOf name
  if word == "source" || word == "defer" then
    if ← isListed then return { typeOnly, phase := word }
    if ((← shape).isFree && !(← atWord "from")) || (← peekIsWord "from") then
      if word == "defer" then return { typeOnly, phase := word }
      let name ← bindingIdent false
      unless ← atWord "from" do expect .comma
      return { typeOnly, phase := word, default := name }
  unless ← atWord "from" do expect .comma
  return { typeOnly, default := name }

/-- An import, at its word. -/
def importDecl (self : Grammar) : Parser Tree := do
  let lo ← curLo
  expectWord "import"
  if (← shape).isStr then
    let src ← stringNode
    let attributes ← importAttributes self
    expectSemi
    return moduleDeclOf (.importDecl false none) (← spanFrom lo) [.list [], src, attributes]
  let head ← importHead
  if let some id := head.default then
    if ← at_ .assign then return ← importEquals lo id false head.typeOnly
  let first := head.default.toList.map fun id => Tree.plain .importDefault id.span [id]
  let specLo ← curLo
  let more ←
    if ← eat .star then do
      expectWord "as"
      let id ← bindingIdent false
      pure [Tree.plain .importNamespace (← spanFrom specLo) [id]]
    else if ← eat .lbrace then do
      let ss ← commaList .rbrace (importSpecifier head.typeOnly)
      expect .rbrace
      pure ss
    else pure []
  let (src, attributes) ← fromClause self
  return moduleDeclOf (.importDecl head.typeOnly head.phase) (← spanFrom lo)
    [.list (first ++ more), src, attributes]

/-! ### Exports -/

/-- A name that an export lists. -/
def exportSpecifier (typeOnly : Bool) : Parser Tree := do
  let lo ← curLo
  let n ← listedName exportName
  if let some span := n.typeSpan then
    if typeOnly then report span .exportedTypeTwice
  return .plain (.exportSpecifier n.typeSpan.isSome) (← spanFrom lo) [n.name, n.other]

/-- Reports names that can be exported only from another module. -/
def checkExported (specs : List Tree) : Parser Unit := do
  for s in specs do
    match (s.kid 0).kind with
    | .ident w =>
      if isReserved w || w == "package" then report (s.kid 0).span (.exportNeedsFrom w)
    | .str _ => report (s.kid 0).span .exportedString
    | _ => pure ()

/-- The default export, after its words. -/
def exportDefault (self : Grammar) (lo : Nat) (decorators : List Tree) : Parser Tree := do
  let declLo ← curLo
  let decl (n : Tree) : Parser Tree := do
    return moduleDeclOf .exportDefaultDecl (← spanFrom lo) [n]
  let decorators ←
    if ← at_ .atSign then do
      let more := (← self .decorators).kids
      unless decorators.isEmpty do fail (← spanFrom declLo) .decoratorsTwice
      pure more
    else pure decorators
  let classLo ← curLo
  if (← atWord "abstract") && (← peekIsWord "class") && !(← peek).afterBreak then
    bump
    let parts ← self (.classTail classLo decorators true false)
    return ← decl (.plain .classExpr (← spanFrom classLo) parts.kids)
  if (← atWord "abstract") && (← peekIsWord "interface") then
    report (← curSpan) .abstractMisplaced
    bump
  let interfaceLo ← curLo
  if ← eatWord "interface" then
    return ← decl (← interfaceDecl self interfaceLo)
  if ← atWord "class" then
    let parts ← self (.classTail classLo decorators false false)
    return ← decl (.plain .classExpr (← spanFrom classLo) parts.kids)
  let isAsync ← atAsyncFunction
  if isAsync || (← atWord "function") then
    if isAsync then bump
    let (id, f) ← functionFrom self classLo [] isAsync false false
    return ← decl (.plain .functionExpr (← spanFrom classLo) [id, f])
  let e ← within (fun c => { c with includeIn := true }) (self .assign)
  expectSemi
  return moduleDeclOf .exportDefaultExpr (← spanFrom lo) [e]

/-- A declaration after `export`, if there is one. -/
def exportedDecl? (self : Grammar) (lo : Nat) (decorators : List Tree) : Parser (Option Tree) := do
  let declLo ← curLo
  if ← atWord "class" then return some (← classDecl self lo declLo decorators false)
  if ← atAsyncFunction then
    bump
    return some (← functionDecl self declLo true)
  if ← atWord "function" then return some (← functionDecl self declLo false)
  if (← atWord "const") && (← peekIsWord "enum") then
    bump
    bump
    return some (← enumDecl self declLo true)
  if ← atVarDecl then return some (← varDecl self false)
  return none

/-- `export *`, or names in braces. -/
def exportList (self : Grammar) (lo : Nat) (typeOnly : Bool) (specLo : Nat) : Parser Tree := do
  if ← eat .star then
    if ← eatWord "as" then
      let name ← exportName
      let spec := Tree.plain .exportNamespace (← spanFrom specLo) [name]
      let (src, attributes) ← fromClause self
      return moduleDeclOf (.exportNamed typeOnly) (← spanFrom lo) [.list [spec], src, attributes]
    let (src, attributes) ← fromClause self
    return moduleDeclOf (.exportAll typeOnly) (← spanFrom lo) [src, attributes]
  expect .lbrace
  let specs ← commaList .rbrace (exportSpecifier typeOnly)
  expect .rbrace
  if ← atWord "from" then
    let (src, attributes) ← fromClause self
    return moduleDeclOf (.exportNamed typeOnly) (← spanFrom lo) [.list specs, src, attributes]
  checkExported specs
  discard eatSemi
  return moduleDeclOf (.exportNamed typeOnly) (← spanFrom lo) [.list specs, .absent, .absent]

/-- An export, at its word. -/
def exportDecl (self : Grammar) (decorators : List Tree) : Parser Tree := do
  let lo ← curLo
  expectWord "export"
  match ← shape with
  | .eof => failHere .unexpectedEof
  | .broken fault => throw fault
  | _ => pure ()
  let declLo ← curLo
  let wrap (d : Tree) : Parser Tree := do
    return moduleDeclOf .exportDecl (← spanFrom lo) [d]
  if ← eatWord "declare" then
    if let some d ← declare? self declLo decorators then return ← wrap d
  match ← shape with
  | .word w _ =>
    let d ← attempt (typeDecl? self declLo decorators w true)
    if let some d := d then return ← wrap d
  | _ => pure ()
  if ← eatWord "import" then
    let typeOnly := (← atWord "type") && (← peek).shape.isFree
    if typeOnly then bump
    let id ← typeName
    return ← importEquals lo id true typeOnly
  if ← eat .assign then
    let e ← self .expr
    expectSemi
    return moduleDeclOf .exportAssignment (← spanFrom lo) [e]
  if ← eatWord "as" then
    expectWord "namespace"
    let id ← identifier
    expectSemi
    return moduleDeclOf .namespaceExport (← spanFrom lo) [id]
  let typeOnly ← eatWord "type"
  if ← pure !typeOnly <&&> eatWord "default" then
    return ← exportDefault self lo decorators
  let decorators ←
    if ← at_ .atSign then do
      let atLo ← curLo
      let more := (← self .decorators).kids
      unless decorators.isEmpty do fail (← spanFrom atLo) .decoratorsTwice
      pure more
    else pure decorators
  unless typeOnly do
    if let some d ← exportedDecl? self lo decorators then return ← wrap d
  exportList self lo typeOnly declLo

/-! ### Items and files -/

/-- A statement, an import or an export. -/
def item (self : Grammar) : Parser Tree := do
  let lo ← curLo
  let decorators := (← self .decorators).kids
  if ← atWord "import" then
    let next := (← peek).shape
    if next.isPunct .lparen || next.isPunct .dot then
      return ← importStatement self (← curLo)
    return ← importDecl self
  if ← atWord "export" then return ← exportDecl self decorators
  plainStatement self lo true decorators

/-- A whole file, after its first token has been read. -/
def file (self : Grammar) (firstLine : Option String) : Parser Tree := do
  let lo ← curLo
  let items ← many (return !(← atEof)) (self .item)
  return .plain (.module firstLine) (← spanFrom lo) [.items items]

end Parser

end ConsoleStrip
