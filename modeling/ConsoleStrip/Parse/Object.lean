/-
Object and array literals, and templates.

* `Parser.objectLiteral`, `Parser.arrayLiteral`;
* `Parser.template`: a template, whose first piece is the current token.
-/
import ConsoleStrip.Parse.Function

namespace ConsoleStrip

namespace Parser

/-- Notes the last comma of the literal that starts at `lo`. -/
def noteLastComma (lo : Nat) : Parser Unit := do
  let here ← prevSpan
  modify fun s => { s with lastCommas := (lo, here) :: s.lastCommas }

/-- The last comma of the literal that starts at `lo`, if it ends with one. -/
def lastComma? (lo : Nat) : Parser (Option Span) :=
  return (← get).lastCommas.lookup lo

/-- A property in its place. -/
def propertyOf (k : Kind) (s : Span) (ks : List Tree)
    (h : k.isCall = false := by exact .refl false) : Tree :=
  .node .property k s ks h

/-- A method of an object literal, after its key. -/
def objectMethod (self : Grammar) (lo : Nat) (key : Tree) (isAsync isGenerator : Bool) :
    Parser Tree := do
  let f ← methodRest self lo [] (formalParams self) isAsync isGenerator
  return propertyOf .method (← spanFrom lo) [key, f]

/-- What may follow the key of a property, for messages. -/
def afterKey : String :=
  "... , *,  (, [, :, , ?, =, an identifier, public, protected, private, readonly, <."

/-- A property after the word `get`, `set` or `async`. -/
def accessorProperty (self : Grammar) (lo : Nat) (word : String) : Parser Tree := do
  let isGenerator ← if word == "async" then eat .star else pure false
  let key ← propertyKey self
  if word == "get" then
    let f ← methodRest self lo [] (getterParams self key.span) false false
    return propertyOf .getter (← spanFrom lo) [key, f.kid 4, bodyOf f]
  if word == "set" then
    let f ← methodRest self lo [] (setterParams self key.span) false false
    let ps := (f.kid 0).kids
    let this := (ps.find? isThisParam).map paramPattern
    let param := (ps.find? (!isThisParam ·)).map paramPattern
    return propertyOf .setter (← spanFrom lo)
      [key, this.getD .absent, param.getD .absent, bodyOf f]
  objectMethod self lo key true isGenerator

/-- The current token may follow the key of a property that has no value and
no parameters. -/
def mayFollowKey (key : Tree) : Parser Bool := do
  match ← shape with
  | .word .. | .str _ | .num _ => return true
  | .punct .rbrace =>
    return match key.kind with
      | .identName _ => true
      | _ => false
  | .punct p => return [Punct.lbracket, .comma, .question, .assign, .star].contains p
  | _ => return false

/-- A property of an object literal. -/
def objectProperty (self : Grammar) : Parser Tree := do
  let lo ← curLo
  if ← eat .ellipsis then
    let e ← self .assign
    return .plain .spread (← spanFrom lo) [e]
  if ← eat .star then
    let key ← propertyKey self
    return ← objectMethod self lo key false true
  let hasAccess ← eatAccess
  let accessSpan ← prevSpan
  let key ← propertyKey self
  if ← eat .colon then
    let value ← self .assign
    return propertyOf .keyValue (← spanFrom lo) [key, value]
  if (← at_ .lparen) || (← atLess) then return ← objectMethod self lo key false false
  unless ← mayFollowKey key do
    report (← curSpan) .semicolonExpected
    return propertyOf .keyValue (← spanFrom lo) [key, .absent]
  match key.kind with
  | .identName name =>
    if ← eat .question then report (← prevSpan) .optionalInObject
    if ← atAny [.assign, .comma, .rbrace] then
      unless isFreeName name do report key.span .reservedShorthand
      if ← eat .assign then
        let value ← self .assign
        return propertyOf (.shorthandInit name) (← spanFrom lo)
          [.plain (.ident name) key.span [], value]
      return propertyOf (.shorthand name) key.span []
    if ["get", "set", "async"].contains name then
      if hasAccess then report accessSpan .asyncModifier
      return ← accessorProperty self lo name
    unexpected afterKey
  | _ => unexpected "identifier"

/-- An object literal. -/
def objectLiteral (self : Grammar) : Parser Tree := do
  let lo ← curLo
  expect .lbrace
  let props ← within (fun c => { c with includeIn := true, colonExpected := false }) do
    many (return !(← eat .rbrace)) do
      let p ← objectProperty self
      unless ← at_ .rbrace do
        expect .comma
        if ← at_ .rbrace then noteLastComma lo
      return p
  return .expr .object (← spanFrom lo) props

/-- An expression, or a spread of one. -/
def argument (self : Grammar) : Parser Tree := do
  let lo ← curLo
  if ← eat .ellipsis then
    let e ← within (fun c => { c with includeIn := true }) (self .assign)
    return .plain .spread (← spanFrom lo) [e]
  within (fun c => { c with includeIn := true }) (self .assign)

/-- An array literal. -/
def arrayLiteral (self : Grammar) : Parser Tree := do
  let lo ← curLo
  expect .lbracket
  let elems ← within (fun c => { c with colonExpected := false }) do
    many (return !(← at_ .rbracket)) do
      if ← eat .comma then return Tree.absent
      let e ← argument self
      unless ← at_ .rbracket do
        expect .comma
        if ← at_ .rbracket then noteLastComma lo
      return e
  expect .rbracket
  return .expr .array (← spanFrom lo) elems

/-- A template, whose first piece is the current token. Only a tag makes bad
escapes good. -/
def template (self : Grammar) (tagged : Bool) : Parser Tree := do
  let lo ← curLo
  let (exprs, pieces, _) ← loop (([] : List Tree), ([] : List Tree), false)
    fun (exprs, pieces, done) => do
      if done then return none
      let ⟨sh, span, _⟩ ← cur
      match sh with
      | .template raw isLast fault =>
        if let some f := fault then
          unless tagged do throw f
        let piece := Tree.plain (.templatePiece raw isLast)
          ⟨span.lo + 1, span.hi - (if isLast then 1 else 2)⟩ []
        bump
        if isLast then return some (exprs, piece :: pieces, true)
        let e ← within (fun c => { c with includeIn := true, colonExpected := false }) (self .expr)
        unless ← at_ .rbrace do unexpected "\x60\x7d\x60"
        rescan .templatePiece
        return some (e :: exprs, piece :: pieces, false)
      | .broken fault => throw fault
      | _ => unexpected "a template"
  return .expr .template (← spanFrom lo) [.list exprs.reverse, .list pieces.reverse]

end Parser

end ConsoleStrip
