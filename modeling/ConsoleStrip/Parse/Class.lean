/-
Classes.

* `Parser.classMember`: a member of a class;
* `Parser.classTail`: a class from the word `class` on, with its name.
-/
import ConsoleStrip.Parse.Object

namespace ConsoleStrip

namespace Parser

/-! ### Members -/

/-- A method follows its key. -/
def atMethod : Parser Bool := do
  if ← at_ .lparen then return true
  atLess

/-- The end of a property follows its key. -/
def atProperty (asi : Bool) : Parser Bool := do
  if ← atAny [.bang, .colon, .assign, .rbrace] then return true
  if asi then atSemi else at_ .semi

/-- A member in its place. -/
def memberOf (k : Kind) (s : Span) (ks : List Tree)
    (h : k.isCall = false := by exact .refl false) : Tree :=
  .node .classMember k s ks h

/-- The key names the constructor. -/
def isConstructorKey (key : Tree) : Bool :=
  match key.kind with
  | .identName "constructor" => true
  | .str raw => raw == "'constructor'" || raw == "\"constructor\""
  | _ => false

/-- What has been read of a member before its key. -/
structure MemberHead where
  lo : Nat
  decorators : List Tree
  modifiers : Modifiers := {}
  /-- From the start of the member to the word `declare`, if it is there. -/
  declareSpan : Option Span := none
  /-- Where the word `static` stands right after an access modifier. -/
  staticSpan : Option Span := none
  /-- Where the last of the modifiers in any order stands. -/
  modifierSpan : Option Span := none

/-- The key is a private name. -/
def isPrivateKey (key : Node) : Bool :=
  match key.kind with
  | .privateName _ => true
  | _ => false

/-- Reports an access modifier on a private name. -/
def checkAccess (h : MemberHead) (key : Tree) : Parser Unit := do
  if h.modifiers.access.isSome && isPrivateKey key then report ⟨h.lo, key.hi⟩ .accessOfPrivateName

/-- A method, after its key. -/
def classMethod (self : Grammar) (h : MemberHead) (key : Tree) (kind : MethodKind)
    (params : Parser (List Tree)) (isAsync isGenerator : Bool) : Parser Tree := do
  let f ← methodRest self h.lo h.decorators params isAsync isGenerator
  let span ← spanFrom h.lo
  checkAccess h key
  if h.modifiers.isAbstract && !isPrivateKey key && (bodyOf f).isPresent then
    report span .abstractWithBody
  return memberOf (.classMethod kind h.modifiers) span [key, f]

/-- A property, after its key. -/
def classProperty (self : Grammar) (h : MemberHead) (key : Tree) (isAccessor : Bool) :
    Parser Tree := do
  if isConstructorKey key then fail key.span .constructorProperty
  if isPrivateKey key then
    if h.modifiers.isDeclare then report key.span (.modifierOfPrivateName "declare")
    if h.modifiers.isAbstract then report key.span (.modifierOfPrivateName "abstract")
  let definite ← if h.modifiers.isOptional then pure false else eat .bang
  let ann ← typeAnn? self
  let value ← within (fun c => { c with
      includeIn := true, inFunction := true, hasNewTarget := true, inAsync := false,
      inGenerator := false, inClassField := true }) do
    if ← eat .assign then
      if h.modifiers.isAbstract then report ⟨h.lo, ← curLo⟩ .abstractWithInit
      self .assign
    else pure .absent
  unless ← eatSemi do report (← curSpan) .semicolonExpected
  checkAccess h key
  let m := { h.modifiers with isDefinite := definite }
  let span ← spanFrom h.lo
  let parts := [key, value, ann, .list h.decorators]
  return if isAccessor then memberOf (.accessor m) span parts
    else memberOf (.classProperty m) span parts

/-- Passes an access modifier. Modifiers of type parameters are out of place
here. -/
def accessModifier : Parser (Option String) := do
  match ← eatModifier ["public", "protected", "private", "in", "out"] with
  | none => return none
  | some w =>
    if w == "in" || w == "out" then
      report (← prevSpan) (.varianceModifier w)
      return none
    return some w

/-- A parameter of a constructor, which may be a property of the class. -/
def constructorParam (self : Grammar) (lo : Nat) (decorators : List Tree) : Parser Tree := do
  let access ← accessModifier
  let isOverride := (← eatModifier ["override"]).isSome
  let isReadonly := (← eatModifier ["readonly"]).isSome
  let pat ← formalParam self
  if access.isNone && !isOverride && !isReadonly then
    return .plain .param (← spanFrom lo) [.list decorators, pat]
  match pat.kind with
  | .binding .. | .assignPattern =>
    return .plain (.paramProperty { access, isOverride, isReadonly }) (← spanFrom lo)
      [.list decorators, pat.asRole .plain]
  | _ => fail pat.span .parameterPropertyPattern

/-- Reports what the parameters of a constructor without a body may not have. -/
def checkBodiless (ps : List Tree) : Parser Unit := do
  for p in ps do
    if let .paramProperty _ := p.kind then report p.span .parameterPropertyOutsideConstructor
  for p in ps do
    if (paramPattern p).kind == .assignPattern then
      report (paramPattern p).span .defaultInDeclaration

/-- A constructor, after its key. -/
def constructorMember (self : Grammar) (h : MemberHead) (key : Tree) : Parser Tree := do
  let m := h.modifiers
  if m.isOverride then report (← spanFrom h.lo) (.constructorModifier "override")
  if ← atLess then
    let tps ← typeParamList self .function
    for p in tps.kids do report p.span .constructorTypeParameters
  expect .lparen
  let ps ← within (fun c => { c with inParameters := true, inFunction := false, inAsync := false })
    (paramList self (constructorParam self))
  expect .rparen
  if ← at_ .colon then
    let ann ← typeAnn? self
    report (ann.kid 0).span .constructorReturnType
  let body ← within (fun c => { c with inClassField := false })
    (functionBody self false false (areSimpleParams ps))
  unless body.isPresent do checkBodiless ps
  if let some span := h.staticSpan then report span (.constructorModifier "static")
  if let some span := h.modifierSpan then
    if m.isAbstract then report span .abstractMisplaced
  return memberOf (.constructor m) (← spanFrom h.lo) [key, .list ps, body]

/-- Modifiers in any order, with their faults. -/
def modifierRun (h : MemberHead) : Parser MemberHead :=
  loop h fun h => do
    if (← atWord "static") && (← peekIs .lbrace) then return none
    let m := h.modifiers
    match ← eatModifier ["abstract", "readonly", "override", "static"] with
    | none => return none
    | some w =>
      let here ← prevSpan
      let h := { h with modifierSpan := some here }
      match w with
      | "abstract" =>
        if m.isAbstract then report here (.modifierRepeated w)
        else if m.isOverride then report here (.modifierOrder w "override")
        else if m.isReadonly then report here (.modifierOrder w "readonly")
        return some { h with modifiers := { m with isAbstract := true } }
      | "override" =>
        if m.isOverride then report here (.modifierRepeated w)
        else if m.isReadonly then report here (.modifierOrder w "readonly")
        else if m.isDeclare then report here (.modifierConflict w "declare")
        else if !(← context).hasSuperClass then report here .overrideWithoutSuper
        return some { h with modifiers := { m with isOverride := true } }
      | "readonly" =>
        if m.isReadonly then report here (.modifierRepeated w)
        return some { h with modifiers := { m with isReadonly := true } }
      | _ =>
        if m.isOverride then report here (.modifierOrder w "override")
        return some { h with modifiers := { m with isStatic := true } }

/-- A static block, at its brace. -/
def staticBlock (self : Grammar) (lo : Nat) : Parser Tree := do
  let body ← withoutLabels (within (fun c => { c with
      inStaticBlock := true, inFunction := false, inAsync := false, inGenerator := false,
      hasNewTarget := true, breakAllowed := false, continueAllowed := false,
      includeIn := true, inClassField := true }) (self .block))
  return memberOf .staticBlock (← spanFrom lo) [body]

/-- A static block, if one follows the modifiers. -/
def staticBlock? (self : Grammar) (h : MemberHead) : Parser (Option Tree) := do
  if h.modifiers.isStatic && (← at_ .lbrace) then
    if let some span := h.declareSpan then report span .modifierNotAllowed
    if h.modifiers.access.isSome then report (← curSpan) .modifierNotAllowed
    return some (← staticBlock self h.lo)
  if (← atWord "static") && (← peekIs .lbrace) then
    if let some span := h.modifierSpan then report span .modifierNotAllowed
    if let some span := h.staticSpan then report span .modifierNotAllowed
    bump
    return some (← staticBlock self h.lo)
  return none

/-- A generator, after its star. -/
def generatorMember (self : Grammar) (h : MemberHead) : Parser Tree := do
  let key ← memberKey self
  if h.modifiers.isReadonly then report (← spanFrom h.lo) .readonlyMethod
  if isConstructorKey key then report (← spanFrom h.lo) .constructorGenerator
  classMethod self h key .method (formalParams self) false true

/-- An asynchronous method, after the word `async`. -/
def asyncMember (self : Grammar) (h : MemberHead) : Parser Tree := do
  let isOverride := (← eatModifier ["override"]).isSome
  if isOverride then report (← prevSpan) (.modifierOrder "override" "async")
  let isGenerator ← eat .star
  let key ← memberKey self
  if isConstructorKey key then fail key.span .constructorAsync
  if h.modifiers.isReadonly then report (← spanFrom h.lo) .readonlyMethod
  let isOptional ← if h.modifiers.isOptional then pure true else eat .question
  let m := { h.modifiers with isOptional, isOverride := h.modifiers.isOverride || isOverride }
  classMethod self { h with modifiers := m } key .method (formalParams self) true isGenerator

/-- A getter or setter, after its word. -/
def accessorMember (self : Grammar) (h : MemberHead) (word : String) (wordSpan : Span) :
    Parser Tree := do
  let key ← memberKey self
  if h.modifiers.isReadonly then report wordSpan .readonlyAccessor
  if isConstructorKey key then report wordSpan .constructorAccessor
  if word == "get" then classMethod self h key .getter (getterParams self key.span) false false
  else classMethod self h key .setter (setterParams self key.span) false false

/-- A member whose modifiers have been read. -/
def memberRest (self : Grammar) (h : MemberHead) (isAccessor : Bool) : Parser Tree := do
  let m := h.modifiers
  if let some b ← staticBlock? self h then return b
  if !m.isAbstract && !m.isOverride && m.access.isNone && (← atIndexSignature) then
    let sig ← indexSignature self h.lo m.isReadonly m.isStatic
    return sig.asRole .classMember
  if ← eat .star then return ← generatorMember self h
  let key ← memberKey self
  let isOptional ← eat .question
  let h := { h with modifiers := { m with isOptional } }
  if ← atMethod then
    if let some span := h.declareSpan then report span .declareMisplaced
    if m.isReadonly then fail (← spanFrom h.lo) .readonlyMethod
    if isConstructorKey key then return ← constructorMember self h key
    return ← classMethod self h key .method (formalParams self) false false
  let lineStar := (← afterBreak) && (← at_ .star)
  let word := match key.kind with
    | .identName w => w
    | _ => ""
  let isAccess := (word == "get" || word == "set") && !(← atProperty false) && !lineStar
  if !isAccess && (← atProperty true) then return ← classProperty self h key isAccessor
  if word == "async" && !(← afterBreak) then return ← asyncMember self h
  if isAccess then return ← accessorMember self h word key.span
  unexpected "* for generator, private key, identifier or async"

/-- A member whose key is a word that could have been a modifier and has just
been passed; none, if the word is a modifier. With `asi` the end of a line
ends a property. -/
def memberNamed (self : Grammar) (h : MemberHead) (w : String) (asi : Bool) :
    Parser (Option Tree) := do
  let key := Tree.plain (.identName w) (← prevSpan) []
  if ← atMethod then
    return some (← classMethod self h key .method (formalParams self) false false)
  if (← at_ .question) || (← atProperty asi) then
    let isOptional ← eat .question
    let h := { h with modifiers := { h.modifiers with isOptional } }
    return some (← classProperty self h key false)
  return none

/-- A member of a class. -/
def classMember (self : Grammar) : Parser Tree := do
  let lo ← curLo
  let decorators := (← self .decorators).kids
  let early ← eatWord "declare"
  let access ← accessModifier
  let isDeclare ← if early then pure true else eatWord "declare"
  let mut h : MemberHead := { lo, decorators, modifiers := { access } }
  if isDeclare then
    if let some m ← memberNamed self h "declare" true then return m
    h := { h with modifiers := { h.modifiers with isDeclare }, declareSpan := ← spanFrom lo }
  if ← eatWord "static" then
    let span ← prevSpan
    unless ← at_ .lbrace do
      if let some m ← memberNamed self h "static" false then return m
    h := { h with modifiers := { h.modifiers with isStatic := true }, staticSpan := span }
  h ← modifierRun h
  let isAccessor ← eatWord "accessor"
  if isAccessor then
    if let some m ← memberNamed self h "accessor" true then return m
  memberRest self h isAccessor

/-- The members of a class, up to the closing brace. A semicolon between
members is an empty member. -/
def classMembers (self : Grammar) : Parser (List Tree) := do
  let (acc, _) ← loop (([] : List Tree), false) fun (acc, hasConstructor) => do
    if ← at_ .rbrace then return none
    let lo ← curLo
    if ← eat .semi then
      return some (memberOf .emptyMember (← spanFrom lo) [] :: acc, hasConstructor)
    let member ← classMember self
    let isConstructor := match member.toNode with
      | .node _ (.constructor _) _ [_, _, body] => body.isPresent
      | _ => false
    if isConstructor && hasConstructor && !(← context).inDeclare then
      report member.span .duplicateConstructor
    return some (member :: acc, hasConstructor || isConstructor)
  return acc.reverse

/-- Reports abstract members, which a class that is not abstract has none
of. -/
def checkConcrete (members : List Tree) : Parser Unit := do
  for member in members do
    let isAbstract := match member.toNode with
      | .node _ (.classMethod _ m) _ (key :: _) => m.isAbstract && !isPrivateKey key
      | .node _ (.classProperty m) _ (key :: _) => m.isAbstract && !isPrivateKey key
      | _ => false
    if isAbstract then report member.span .abstractInConcreteClass

/-! ### Heads -/

/-- The super class and its type arguments. -/
def superClass (self : Grammar) : Parser (Tree × Tree) := do
  let e ← self .lhs
  match e.kind with
  | .instantiation => return (e.kid 0, e.kid 1)
  | _ =>
    if ← atLess then
      let args ← self .typeArgs
      return (e, args)
    return (e, .absent)

/-- Types that are extended or implemented, separated by commas; there may be
none. -/
def heritageClause (self : Grammar) : Parser (List Tree) := do
  let atEnd : Parser Bool := do
    if ← at_ .lbrace then return true
    atAnyWord ["extends", "implements"]
  many (return !(← atEnd)) do
    let e ← self .heritage
    unless ← eat .comma do
      unless ← atEnd do expect .comma
    return e

/-- Names that no class and no interface can have. -/
def takenTypeNames : List String :=
  ["string", "null", "number", "object", "any", "unknown", "boolean", "bigint", "symbol", "void",
   "never", "intrinsic"]

/-- Reports a name that is taken by a type of the language. -/
def checkTypeName (id : Tree) (cause : Cause) : Parser Unit := do
  if let .ident w := id.kind then
    if takenTypeNames.contains w then report id.span cause

/-- The super class, its type arguments, and the types that are implemented. -/
def classHeritage (self : Grammar) : Parser (Tree × Tree × List Tree) := do
  let (sup, supArgs) ←
    if ← eatWord "extends" then do
      let r ← superClass self
      if ← eat .comma then
        for e in ← heritageClause self do report e.span .oneSuperClass
      pure r
    else pure (Tree.absent, Tree.absent)
  if ← eatWord "extends" then
    report (← prevSpan) .extendsTwice
    discard (superClass self)
  let implemented ← if ← eatWord "implements" then heritageClause self else pure []
  if ← eatWord "implements" then
    report (← prevSpan) .implementsTwice
    discard (heritageClause self)
  if ← eatWord "extends" then
    report (← prevSpan) .extendsAfterImplements
    discard (superClass self)
  return (sup, supArgs, implemented)

/-- A class from the word `class` on: its name and the rest, as a list of
two. -/
def classTail (self : Grammar) (lo : Nat) (decorators : List Tree) (isAbstract named : Bool) :
    Parser Tree :=
  within (fun c => { c with inClass := true }) do
  expectWord "class"
  let id ← if named || (← shape).isFree then bindingIdent true else pure .absent
  checkTypeName id .className
  let tps ← typeParams? self .classDecl
  let (sup, supArgs, implemented) ← classHeritage self
  expect .lbrace
  let members ← within (fun c => { c with hasSuper := true, hasSuperClass := sup.isPresent })
    (classMembers self)
  expect .rbrace
  unless isAbstract do checkConcrete members
  let body := Tree.plain (.classBody isAbstract) (← spanFrom lo)
    [.list decorators, .list members, sup, tps, supArgs, .list implemented]
  return .list [id, body]

end Parser

end ConsoleStrip
