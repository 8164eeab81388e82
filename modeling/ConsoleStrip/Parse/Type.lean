/-
Types.

* `Parser.typeNode`: any type;
* `Parser.returnTypeAnn`: the result of a function, which may be a predicate;
* `Parser.typeParamList`, `Parser.typeArgList`: what stands in angle brackets;
* `Parser.typeMembers`: the members of an interface or of an object type.
-/
import ConsoleStrip.Parse.Pattern

namespace ConsoleStrip

namespace Parser

/-- A node in the place of a type. -/
def typeOf (k : Kind) (s : Span) (ks : List Tree)
    (h : k.isCall = false := by exact .refl false) : Tree :=
  .node .typeNode k s ks h

/-! ### Angle brackets -/

/-- What stands between angle brackets. -/
def angleList (item : Parser Tree) : Parser (List Tree) := do
  unless ← eatLess do failHere (.expected "<" (← shape).title)
  let items ← many (return !(← atGreater)) do
    let t ← item
    unless ← atGreater do expect .comma
    return t
  expectGreater
  return items

/-- Type arguments. -/
def typeArgList (self : Grammar) : Parser Tree := do
  let lo ← curLo
  let ts ← angleList (self .type)
  return .plain .typeArgs (← spanFrom lo) ts

/-- Any word, as the name of a type. -/
def typeName : Parser Tree := do
  let n ← identName
  return match n.kind with
    | .identName w => .plain (.ident w) n.span []
    | _ => n

/-! ### Modifiers -/

/-- A modifier may be one: something that can be modified follows. -/
def modifierFollows : Parser Bool := do
  match (← peek).shape with
  | .word .. | .str _ | .num _ | .bigint _ => return true
  | .punct p => return [Punct.lbracket, .lbrace, .star, .ellipsis, .hash].contains p
  | _ => return false

/-- Passes one of some modifiers. Where one may stand, the text may not end. -/
def eatModifier (ws : List String) : Parser (Option String) := do
  match ← shape with
  | .word w _ =>
    if ws.contains w then
      if ← modifierFollows then
        bump
        return some w
    return none
  | .eof => failHere .unexpectedEof
  | .broken fault => throw fault
  | _ => return none

/-! ### Type parameters -/

/-- What type parameters belong to, which decides on their modifiers. -/
inductive TypeParamOwner where
  | function
  | classDecl
  | typeDecl
deriving DecidableEq

/-- Modifiers of a type parameter: `in`, `out` and `const`. -/
def typeParamModifiers (owner : TypeParamOwner) : Parser (Bool × Bool × Bool) :=
  loop (false, false, false) fun (i, o, c) => do
    let word ← eatModifier
      ["public", "private", "protected", "readonly", "abstract", "const", "override", "in", "out"]
    let here ← prevSpan
    match word with
    | none => return none
    | some "const" =>
      if owner == .typeDecl then report here (.constModifier "const")
      return some (i, o, true)
    | some "in" =>
      if owner == .function then report here (.varianceModifier "in")
      else if i then report here (.modifierRepeated "in")
      else if o then report here (.modifierOrder "in" "out")
      return some (true, o, c)
    | some "out" =>
      if owner == .function then report here (.varianceModifier "out")
      else if o then report here (.modifierRepeated "out")
      return some (i, true, c)
    | some w =>
      report here (.typeParameterModifier w)
      return some (i, o, c)

/-- A type parameter. -/
def typeParam (self : Grammar) (owner : TypeParamOwner) : Parser Tree := do
  let lo ← curLo
  let (i, o, c) ← typeParamModifiers owner
  let name ← typeName
  let constraint ← if ← eatWord "extends" then self .type else pure .absent
  let default ← if ← eat .assign then self .type else pure .absent
  return .plain (.typeParam i o c) (← spanFrom lo) [name, constraint, default]

/-- Type parameters. -/
def typeParamList (self : Grammar) (owner : TypeParamOwner) : Parser Tree := do
  let lo ← curLo
  let ps ← angleList (typeParam self owner)
  return .plain .typeParams (← spanFrom lo) ps

/-- Type parameters, if there are some. -/
def typeParams? (self : Grammar) (owner : TypeParamOwner) : Parser Tree := do
  if ← atLess then typeParamList self owner else return .absent

/-! ### Names in types -/

/-- A name with dots. A missing name after a dot is reported, and the dot
does not count. -/
def entityName (reserved : Bool) : Parser Tree := do
  let lo ← curLo
  let first ← typeName
  loop first fun left => do
    unless ← eat .dot do return none
    let here ← curLo
    unless (← at_ .hash) || (← atAnyName) do
      report ⟨here, here⟩ .nameExpected
      return none
    let right ← if reserved then identName else identifier
    return some (.plain .qualifiedName (← spanFrom lo) [left, right])

/-! ### Results of functions -/

/-- The result of a function after `sign`: a type, or a predicate on a
parameter. -/
def returnTypeAnn (self : Grammar) (sign : Punct) : Parser Tree :=
  within (fun c => { c with colonExpected := false }) do
  let lo ← curLo
  expect sign
  let predLo ← curLo
  let asserts := (← atWord "asserts") && (← peek).shape.isFree
  if asserts then bump
  let next ← peek
  let hasIs := (← shape).isFree && next.shape.isWord "is" && !next.afterBreak
  unless asserts || hasIs do return ← typeAnnFrom self lo
  let name ← typeName
  let ann ←
    if hasIs then do
      bump
      typeAnnFrom self (← curLo)
    else pure .absent
  let pred := typeOf (.typePredicate asserts) (← spanFrom predLo) [name, ann]
  return .plain .typeAnn (← spanFrom lo) [pred]

/-- The parameters of a signature, in parentheses, as patterns. -/
def signatureParams (self : Grammar) : Parser (List Tree) := do
  expect .lparen
  let ps ← formalParams self
  if ps.any fun p => (paramPattern p).kind == .assignPattern then
    unexpected ("an identifier, [ for an array pattern, \x7b for an object patter or ... for a " ++
      "rest pattern")
  expect .rparen
  return ps.map fun p => (paramPattern p).asRole .plain

/-! ### Members of object types -/

/-- The end of a member: a comma, or the end of a statement. -/
def memberEnd : Parser Unit := do
  unless ← eat .comma do expectSemi

/-- The key of a member: whether it is in brackets, and the key as an
expression. -/
def signatureKey (self : Grammar) : Parser (Bool × Tree) := do
  if ← eat .lbracket then
    let e ← self .assign
    expect .rbracket
    return (true, e)
  if ← at_ .hash then
    let n ← privateName
    report n.span .privateNameInType
    return (false, n.asRole .expression)
  match ← cur with
  | ⟨.str raw, span, _⟩ => bump; return (false, .expr (.str raw) span [])
  | ⟨.num raw, span, _⟩ => bump; return (false, .expr (.num raw) span [])
  | ⟨.broken fault, _, _⟩ => throw fault
  | _ => return (false, (← typeName).asRole .expression)

/-- An index signature follows. -/
def atIndexSignature : Parser Bool := do
  unless ← at_ .lbracket do return false
  lookAhead do
    bump
    unless (← shape).isFree do return false
    bump
    atAny [.colon, .comma]

/-- An index signature, from its bracket on. -/
def indexSignature (self : Grammar) (lo : Nat) (readonly isStatic : Bool) : Parser Tree := do
  expect .lbracket
  let idLo ← curLo
  let (name, idSpan) ← match ← cur with
    | ⟨.word name _, span, _⟩ => do bump; pure (name, span)
    | _ => failHere .identifierExpected
  let annLo ← curLo
  if ← eat .comma then report idSpan .indexParameters else expect .colon
  let ann ← typeAnnFrom self annLo
  let id := Tree.plain (.binding name false) (← spanFrom idLo) [ann]
  expect .rbracket
  let ty ← typeAnn? self
  memberEnd
  return .plain (.indexSignature readonly isStatic) (← spanFrom lo) [.list [id], ty]

/-- A signature without a name: parameters and result. -/
def bareSignature (self : Grammar) (k : Kind) (lo : Nat)
    (h : k.isCall = false := by exact .refl false) : Parser Tree := do
  let tps ← typeParams? self .function
  let ps ← signatureParams self
  let ann ← if ← at_ .colon then self (.returnType .colon) else pure .absent
  memberEnd
  return .plain k (← spanFrom lo) [.list ps, ann, tps] h

/-- A `get` or `set` signature. -/
def accessorSignature (self : Grammar) (readonly : Bool) : Parser (Option Tree) := attempt do
  let lo ← curLo
  if readonly then failHere .readonlyAccessor
  let isGet ← eatWord "get"
  unless isGet do expectWord "set"
  let (computed, key) ← signatureKey self
  expect .lparen
  if isGet then
    expect .rparen
    let ann ← typeAnn? self
    memberEnd
    return some (.plain (.getterSignature computed) (← spanFrom lo) [key, ann])
  let ps ← formalParams self
  match ps with
  | [] => failHere .setterParameter
  | p :: _ =>
    expect .rparen
    memberEnd
    return some (.plain (.setterSignature computed) (← spanFrom lo)
      [key, (paramPattern p).asRole .plain])

/-- A property or method signature. -/
def namedSignature (self : Grammar) (lo : Nat) (readonly : Bool) : Parser Tree := do
  let (computed, key) ← signatureKey self
  let isOptional ← eat .question
  if (← at_ .lparen) || (← atLess) then
    if readonly then failHere .readonlyMethod
    let tps ← typeParams? self .function
    let ps ← signatureParams self
    let ann ← if ← at_ .colon then self (.returnType .colon) else pure .absent
    memberEnd
    return .plain (.methodSignature computed isOptional) (← spanFrom lo) [key, .list ps, ann, tps]
  let ann ← typeAnn? self
  memberEnd
  return .plain (.propertySignature readonly computed isOptional) (← spanFrom lo) [key, ann]

/-- A member of an object type. -/
def typeMember (self : Grammar) : Parser Tree := do
  let lo ← curLo
  if (← at_ .lparen) || (← atLess) then return ← bareSignature self .callSignature lo
  if ← atWord "new" then
    let next := (← peek).shape
    if next.isPunct .lparen || next.isPunct .lt then
      bump
      return ← bareSignature self .constructSignature lo
  let readonly := (← eatModifier ["readonly"]).isSome
  if ← atIndexSignature then return ← indexSignature self lo readonly false
  if let some m ← accessorSignature self readonly then return m
  namedSignature self lo readonly

/-- The members of an object type, in braces. -/
def typeMembers (self : Grammar) : Parser (List Tree) := do
  expect .lbrace
  let ms ← many (return !(← at_ .rbrace)) (typeMember self)
  expect .rbrace
  return ms

/-! ### Types in order of binding strength -/

/-- A mapped type follows. -/
def atMappedType : Parser Bool := lookAhead do
  expect .lbrace
  if ← atAny [.plus, .minus] then
    bump
    return ← atWord "readonly"
  if ← atWord "readonly" then bump
  unless ← eat .lbracket do return false
  unless (← shape).isFree do return false
  bump
  atWord "in"

/-- A mark of a mapped type, which `present` passes if it is there. After a
sign `needed` has to pass it. -/
def mappedMark (present : Parser Bool) (needed : Parser Unit) : Parser Mark := do
  if ← atAny [.plus, .minus] then
    let isPlus ← at_ .plus
    bump
    needed
    return if isPlus then .plus else .minus
  return if ← present then .plain else .none

/-- A mapped type. -/
def mappedType (self : Grammar) : Parser Tree := do
  let lo ← curLo
  expect .lbrace
  let readonly ← mappedMark (eatWord "readonly") (expectWord "readonly")
  expect .lbracket
  let pLo ← curLo
  let name ← typeName
  expectWord "in"
  let constraint ← self .type
  let param := Tree.plain (.typeParam false false false) (← spanFrom pLo)
    [name, constraint, .absent]
  let nameType ← if ← eatWord "as" then self .type else pure .absent
  expect .rbracket
  let isOptional ← mappedMark (eat .question) (expect .question)
  let ty ← if ← eat .colon then self .type else pure .absent
  expectSemi
  expect .rbrace
  return typeOf (.mappedType readonly isOptional) (← spanFrom lo) [param, nameType, ty]

/-- The label of a tuple element, if there is one. -/
def tupleLabel : Parser (Option Tree) := attempt do
  let lo ← curLo
  let isRest ← eat .ellipsis
  match ← cur with
  | ⟨.word name _, span, _⟩ =>
    bump
    let isOptional ← eat .question
    let id := Tree.node .pattern (.binding name isOptional) ⟨span.lo, ← prevHi⟩ [.absent]
    expect .colon
    if isRest then
      return some (.node .pattern .rest (← spanFrom lo) [id, .absent])
    return some id
  | _ => return none

/-- An element of a tuple type. -/
def tupleElement (self : Grammar) : Parser Tree := do
  let lo ← curLo
  let label := (← tupleLabel).getD .absent
  if ← eat .ellipsis then
    let t ← self .type
    let span ← spanFrom lo
    return .plain .tupleElement span [label, typeOf .restType span [t]]
  let t ← self .type
  if ← eat .question then
    let span ← spanFrom lo
    return .plain .tupleElement span [label, typeOf .optionalType span [t]]
  return .plain .tupleElement (← spanFrom lo) [label, t]

/-- A required element follows an optional one. -/
def hasLateRequired (elements : List Tree) : Bool :=
  let rest := elements.dropWhile fun e => (e.kid 1).kind != .optionalType
  rest.any fun e => (e.kid 1).kind != .optionalType && (e.kid 1).kind != .restType

/-- A tuple type. -/
def tupleType (self : Grammar) : Parser Tree := do
  let lo ← curLo
  expect .lbracket
  let es ← commaList .rbracket (tupleElement self)
  expect .rbracket
  if hasLateRequired es then fail (← spanFrom lo) .optionalBeforeRequired
  return typeOf .tupleType (← spanFrom lo) es

/-- The rest of a template type after its first piece, which is the current
token. -/
def templateType (self : Grammar) : Parser Tree := do
  let lo ← curLo
  let (types, pieces, _) ← loop (([] : List Tree), ([] : List Tree), false)
    fun (types, pieces, done) => do
      if done then return none
      let ⟨sh, span, _⟩ ← cur
      match sh with
      | .template raw isLast _ =>
        let piece := Tree.plain (.templatePiece raw isLast)
          ⟨span.lo + 1, span.hi - (if isLast then 1 else 2)⟩ []
        bump
        if isLast then return some (types, piece :: pieces, true)
        let t ← self .type
        unless ← at_ .rbrace do unexpected "\x60\x7d\x60"
        rescan .templatePiece
        return some (t :: types, piece :: pieces, false)
      | .broken fault => throw fault
      | _ => unexpected "a template"
  return typeOf .literalType (← spanFrom lo)
    [.plain .templateType (← spanFrom lo) [.list types.reverse, .list pieces.reverse]]

/-- The type of a module, `import("…")`. -/
def importType (self : Grammar) : Parser Tree := do
  let lo ← curLo
  expectWord "import"
  expect .lparen
  let arg ← match ← cur with
    | ⟨.str raw, span, _⟩ => do bump; pure (Tree.plain (.str raw) span [])
    | ⟨_, span, _⟩ => do
      bump
      report span .stringExpected
      pure (Tree.plain (.str "\"\"") span [])
  let attributes ← if (← eat .comma) && !(← at_ .rparen) then self .assign else pure .absent
  discard (eat .comma)
  expect .rparen
  let qualifier ← if ← eat .dot then entityName false else pure .absent
  let args ← if ← atLess then self .typeArgs else pure .absent
  return typeOf .importType (← spanFrom lo) [arg, attributes.asRole .plain, qualifier, args]

/-- Type arguments on the same line. -/
def typeArgsOnLine (self : Grammar) : Parser Tree := do
  if !(← afterBreak) && (← atLess) then self .typeArgs else return .absent

/-- Words that are types by themselves. -/
def keywordTypes : List String :=
  ["void", "any", "boolean", "bigint", "never", "number", "object", "string", "symbol", "unknown",
   "undefined", "null", "intrinsic"]

/-- What a type may start with, for messages. -/
def typeStarts : String :=
  "an identifier, void, yield, null, await, break, a string literal, a numeric literal, true, " ++
   "false, `, -, import, this, typeof, \x7b, [, ("

/-- A literal as a type. -/
def literalTypeOf (k : Kind) (span : Span) (h : k.isCall = false := by exact .refl false) : Tree :=
  typeOf .literalType span [.plain k span [] h]

/-- Words that no type is named by. -/
def noTypeNames : List String :=
  "let" :: reservedWords.filter fun w => !(["break", "enum", "null", "void"].contains w)

/-- A predicate on `this`, at that word or at `asserts` before it. -/
def thisPredicate (self : Grammar) (asserts : Bool) : Parser Tree := do
  let lo ← curLo
  if asserts then bump
  let this := Tree.plain .thisType (← curSpan) []
  bump
  let ann ← if ← eatWord "is" then typeAnnFrom self (← curLo) else pure .absent
  return typeOf (.typePredicate asserts) (← spanFrom lo) [this, ann]

/-- A type without brackets after it. -/
def nonArrayType (self : Grammar) : Parser Tree := do
  let ⟨sh, span, _⟩ ← cur
  match sh with
  | .str raw => bump; return literalTypeOf (.str raw) span
  | .num raw => bump; return literalTypeOf (.num raw) span
  | .bigint raw => bump; return literalTypeOf (.bigint raw) span
  | .template .. => templateType self
  | .punct .minus =>
    bump
    match ← cur with
    | ⟨.num raw, s, _⟩ =>
      bump
      return typeOf .literalType ⟨span.lo, s.hi⟩ [.plain (.num ("-" ++ raw)) s []]
    | ⟨.bigint raw, s, _⟩ =>
      bump
      return typeOf .literalType ⟨span.lo, s.hi⟩ [.plain (.bigint ("-" ++ raw)) s []]
    | _ => unexpected "numeric literal or bigint literal"
  | .punct .lbrace =>
    if ← atMappedType then mappedType self
    else do
      let ms ← typeMembers self
      return typeOf .typeLiteral (← spanFrom span.lo) ms
  | .punct .lbracket => tupleType self
  | .punct .lparen =>
    bump
    let t ← within (fun c => { c with conditionalTypes := true }) (self .type)
    expect .rparen
    return typeOf .parenType (← spanFrom span.lo) [t]
  | .word "true" _ => bump; return literalTypeOf (.bool true) span
  | .word "false" _ => bump; return literalTypeOf (.bool false) span
  | .word "this" _ =>
    if (← peekIsWord "is") && !(← peek).afterBreak then thisPredicate self false
    else
      bump
      return typeOf .thisType span []
  | .word "typeof" _ =>
    bump
    let name ← if ← atWord "import" then importType self else entityName true
    let args ← typeArgsOnLine self
    return typeOf .typeQuery (← spanFrom span.lo) [name.asRole .plain, args]
  | .word "import" _ => importType self
  | .word w _ =>
    if keywordTypes.contains w && !(← peekIs .dot) then
      bump
      return typeOf (.keywordType w) span []
    if w == "asserts" && (← peekIsWord "this") then return ← thisPredicate self true
    if noTypeNames.contains w then unexpected typeStarts
    let hasAccess ← eatAccess
    let name ← entityName true
    let args ← typeArgsOnLine self
    let whole ← spanFrom span.lo
    if hasAccess then report whole .parameterPropertyOutsideConstructor
    return typeOf .typeRef whole [name, args]
  | .eof => failHere .unexpectedEof
  | .broken fault => throw fault
  | _ => unexpected typeStarts

/-- A type with brackets after it. -/
def arrayType (self : Grammar) : Parser Tree := do
  let lo ← curLo
  let first ← nonArrayType self
  loop first fun t => do
    if ← afterBreak then return none
    unless ← eat .lbracket do return none
    if ← eat .rbracket then return some (typeOf .arrayType (← spanFrom lo) [t])
    let index ← self .type
    expect .rbracket
    return some (typeOf .indexedAccess (← spanFrom lo) [t, index])

/-- A type that an operator may stand before. -/
def prefixedType (self : Grammar) : Parser Tree := do
  let lo ← curLo
  for op in ["keyof", "unique", "readonly"] do
    if ← eatWord op then
      let t ← self .prefixedType
      return typeOf (.typeOperator op) (← spanFrom lo) [t]
  if ← atWord "infer" then
    bump
    let pLo ← curLo
    let name ← typeName
    let constraint ← attempt do
      expectWord "extends"
      let c ← within (fun c => { c with conditionalTypes := false }) (self .nonConditionalType)
      if !(← context).conditionalTypes || !(← at_ .question) then return some c
      return none
    let param := Tree.plain (.typeParam false false false) (← spanFrom pLo)
      [name, constraint.getD .absent, .absent]
    return typeOf .inferType (← spanFrom lo) [param]
  arrayType self

/-- Types joined by an operator, which may also stand before the first. -/
def joinedType (sign : Punct) (k : Kind) (item : Parser Tree)
    (h : k.isCall = false := by exact .refl false) : Parser Tree := do
  let lo ← curLo
  discard (eat sign)
  let first ← item
  if ← at_ sign then
    let more ← many (eat sign) item
    return typeOf k (← spanFrom lo) (first :: more) h
  return first

/-- A function type follows. -/
def atFunctionType (self : Grammar) : Parser Bool := do
  if ← atLess then return true
  unless ← at_ .lparen do return false
  lookAhead do
    bump
    if ← atAny [.rparen, .ellipsis] then return true
    discard eatAccess
    let skipped ← do
      if ← atAnyName then
        bump
        pure true
      else if ← atAny [.lbrace, .lbracket] then
        discard (self (.pattern false))
        pure true
      else pure false
    unless skipped do return false
    if ← atAny [.colon, .comma, .assign, .question] then return true
    if ← eat .rparen then return ← at_ .arrow
    return false

/-- The type of a function, or of a constructor. -/
def functionType (self : Grammar) (k : Kind) (lo : Nat)
    (h : k.isCall = false := by exact .refl false) : Parser Tree := do
  let tps ← typeParams? self .function
  let ps ← signatureParams self
  let ann ← self (.returnType .arrow)
  return typeOf k (← spanFrom lo) [.list ps, tps, ann] h

/-- A type that is no conditional type. -/
def nonConditionalType (self : Grammar) : Parser Tree := do
  let lo ← curLo
  if ← atFunctionType self then return ← functionType self .functionType lo
  if ← eatWord "new" then return ← functionType self (.constructorType false) lo
  if (← atWord "abstract") && (← peekIsWord "new") then
    bump
    bump
    return ← functionType self (.constructorType true) lo
  joinedType .pipe .unionType
    (joinedType .amp .intersectionType (self .prefixedType))

/-- Any type. -/
def typeNode (self : Grammar) : Parser Tree := do
  let lo ← curLo
  let t ← nonConditionalType self
  let allowed := (← context).conditionalTypes
  if ← pure allowed <&&> notM afterBreak <&&> eatWord "extends" then
    let ext ← within (fun c => { c with conditionalTypes := false }) (self .nonConditionalType)
    expect .question
    let yes ← within (fun c => { c with conditionalTypes := true }) (self .type)
    expect .colon
    let no ← within (fun c => { c with conditionalTypes := true }) (self .type)
    return typeOf .conditionalType (← spanFrom lo) [t, ext, yes, no]
  return t

end Parser

end ConsoleStrip
