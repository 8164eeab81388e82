/-
Names and the keys of properties.

* `Parser.identName`: any word;
* `Parser.identifier`: a word that may name a variable;
* `Parser.bindingName`: a word that a declaration may introduce;
* `Parser.propertyKey`: the key of a property.
-/
import ConsoleStrip.Parse.Goal

namespace ConsoleStrip

namespace Parser

/-- Any word, as a name. -/
def identName : Parser Tree := do
  match ← cur with
  | ⟨.word name _, span, _⟩ =>
    bump
    return .plain (.identName name) span []
  | _ => failHere .identifierExpected

/-- A word that may name a variable, as its text and span. -/
def identifierText : Parser (String × Span) := do
  match ← cur with
  | ⟨.word name _, span, _⟩ =>
    bump
    let ctx ← context
    if name == "await" then
      unless ctx.inDeclare do
        if ctx.inStaticBlock then fail span .identifierExpected
        fail span .awaitAsIdentifier
    else if isStrictReserved name || name == "enum" then report span (.reservedInStrict name)
    else if isReserved name && name != "this" then fail span .identifierExpected
    else if name == "arguments" && ctx.inClassField then report span .argumentsInClassField
    return (name, span)
  | _ => failHere .identifierExpected

/-- A word that may name a variable. -/
def identifier : Parser Tree := do
  let (name, span) ← identifierText
  return .plain (.ident name) span []

/-- A word that a declaration may introduce. -/
def bindingName (noLet : Bool) : Parser (String × Span) := do
  if noLet && (← atWord "let") then
    unexpected "let is reserved in const, let, class declaration"
  let (name, span) ← identifierText
  if name == "eval" || name == "arguments" then report span .evalOrArgumentsBound
  return (name, span)

/-- A word that a declaration may introduce, as the name of a function, class
or import. -/
def bindingIdent (noLet : Bool) : Parser Tree := do
  let (name, span) ← bindingName noLet
  return .plain (.ident name) span []

/-- A private name in an expression, at its `#`. -/
def privateRef : Parser Tree := do
  let lo ← curLo
  expect .hash
  match ← shape with
  | .word name _ =>
    bump
    return .plain (.privateName name) (← spanFrom lo) []
  | _ => failHere .identifierExpected

/-- A private name, at its `#`, which no blank divides. -/
def privateName : Parser Tree := do
  let hash ← curSpan
  let next := (← peek).span.lo
  if next != hash.hi then
    expect .hash
    fail ⟨hash.lo, next⟩ .spaceAfterHash
  privateRef

/-- The key of a property. -/
def propertyKey (self : Grammar) : Parser Tree := do
  let ⟨sh, span, _⟩ ← cur
  match sh with
  | .str raw => bump; return .plain (.str raw) span []
  | .num raw => bump; return .plain (.num raw) span []
  | .bigint raw => bump; return .plain (.bigint raw) span []
  | .word name _ => bump; return .plain (.identName name) span []
  | .punct .lbracket =>
    bump
    let innerLo ← curLo
    let e ← within (fun c => { c with includeIn := true }) (self .assign)
    if ← at_ .comma then
      let more ← many (at_ .comma) do
        bump
        self .assign
      report (← spanFrom innerLo) .computedSequence
      let seq := Tree.expr .sequence (← spanFrom innerLo) (e :: more)
      expect .rbracket
      return .plain .computed (← spanFrom span.lo) [seq]
    expect .rbracket
    return .plain .computed (← spanFrom span.lo) [e]
  | .broken fault => throw fault
  | _ =>
    unexpected "identifier, string literal, numeric literal or [ for the computed key"

/-- The key of a class member, which may be private. -/
def memberKey (self : Grammar) : Parser Tree := do
  if ← at_ .hash then
    let n ← privateName
    if n.kind == .privateName "constructor" then report n.span .privateConstructor
    return n
  propertyKey self

end Parser

end ConsoleStrip
