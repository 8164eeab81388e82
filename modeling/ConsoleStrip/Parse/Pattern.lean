/-
Patterns and parameters.

* `Parser.bindingPattern`: what a declaration binds;
* `Parser.typeAnn?`: a type after a colon;
* `Parser.formalParams`: the parameters of a function, up to the closing
  parenthesis.
-/
import ConsoleStrip.Parse.Name

namespace ConsoleStrip

namespace Parser

/-! ### Types after a colon -/

/-- A type annotation whose sign, at `lo`, has been passed. -/
def typeAnnFrom (self : Grammar) (lo : Nat) : Parser Tree := do
  let t ← self .type
  return .plain .typeAnn (← spanFrom lo) [t]

/-- A type after a colon, if there is one. -/
def typeAnn? (self : Grammar) : Parser Tree := do
  let lo ← curLo
  if ← eat .colon then typeAnnFrom self lo else return .absent

/-- Gives a pattern a type annotation and the span that goes with it. -/
def annotated (pat ann : Tree) (span : Span) : Tree :=
  let s := if ann.isPresent then span else pat.span
  match pat.kind, pat.kids with
  | .binding name o, _ => .node pat.role (.binding name o) s [ann]
  | k, [inner, _] => if h : k.isCall = false then .node pat.role k s [inner, ann] h else pat
  | _, _ => pat

/-! ### Binding patterns -/

/-- A binding, as a pattern. -/
def bindingNode (name : String) (span : Span) : Tree :=
  .node .pattern (.binding name false) span [.absent]

/-- A pattern with an optional default. -/
def bindingElement (self : Grammar) : Parser Tree := do
  let lo ← curLo
  let left ← self (.pattern false)
  if ← eat .assign then
    let right ← within (fun c => { c with includeIn := true }) (self .assign)
    if (← context).inDeclare then report (← spanFrom lo) .defaultInDeclaration
    return .node .pattern .assignPattern (← spanFrom lo) [left, right]
  return left

/-- The question mark after a pattern, which only a declaration takes there. -/
def eatPatternMark : Parser Bool := do
  if (← context).inDeclare then eat .question else return false

/-- An array pattern. -/
def arrayPattern (self : Grammar) : Parser Tree := do
  let lo ← curLo
  expect .lbracket
  let (elems, _) ← loop (([] : List Tree), (none : Option Span)) fun (acc, rest) => do
    if (← at_ .rbracket) || (← atEof) then return none
    if ← eat .comma then return some (Tree.absent :: acc, rest)
    if let some span := rest then report span .restNotLast
    let start ← curLo
    let isRest ← eat .ellipsis
    let pat ←
      if isRest then do
        let arg ← self (.pattern false)
        pure (Tree.node .pattern .rest (← spanFrom start) [arg, .absent])
      else bindingElement self
    unless ← at_ .rbracket do
      expect .comma
      if isRest && (← at_ .rbracket) then report (← prevSpan) .commaAfterRest
    return some (pat :: acc, if isRest then some pat.span else rest)
  expect .rbracket
  let span ← spanFrom lo
  return .node .pattern (.arrayPattern (← eatPatternMark)) span [.list elems.reverse, .absent]

/-- A property of an object pattern. -/
def patternProperty (self : Grammar) : Parser Tree := do
  let lo ← curLo
  if ← eat .ellipsis then
    let arg ← self (.pattern false)
    return .plain .rest (← spanFrom lo) [arg, .absent]
  let key ← propertyKey self
  if ← eat .colon then
    let value ← bindingElement self
    return .plain .keyValuePattern (← spanFrom lo) [key, value]
  match key.kind with
  | .identName name =>
    let binding := Tree.plain (.binding name false) key.span [.absent]
    if ← eat .assign then
      let value ← within (fun c => { c with includeIn := true }) (self .assign)
      return .plain .shorthandPattern (← spanFrom lo) [binding, value]
    unless isFreeName name do report key.span .reservedShorthand
    return .plain .shorthandPattern (← spanFrom lo) [binding, .absent]
  | _ => unexpected "an identifier"

/-- Reports rest properties that are not last, or are last before a comma. -/
def checkRestProperties (props : List Tree) (comma : Option Span) : Parser Unit := do
  for p in props.dropLast do
    if p.kind == .rest then report p.span .restNotLast
  match props.getLast? with
  | some p =>
    if p.kind == .rest then
      match (p.kid 0).kind with
      | .binding .. => if let some c := comma then report c .commaAfterRest
      | _ => fail p.span .dotsWithoutIdentifier
  | none => pure ()

/-- An object pattern. -/
def objectPattern (self : Grammar) : Parser Tree := do
  let lo ← curLo
  expect .lbrace
  let (props, comma) ← loop (([] : List Tree), (none : Option Span)) fun (acc, comma) => do
    if ← eat .rbrace then return none
    let p ← patternProperty self
    if ← at_ .rbrace then return some (p :: acc, comma)
    expect .comma
    let isLast ← at_ .rbrace
    let here ← prevSpan
    return some (p :: acc, if isLast then some here else comma)
  let props := props.reverse
  checkRestProperties props comma
  let span ← spanFrom lo
  return .node .pattern (.objectPattern (← eatPatternMark)) span [.list props, .absent]

/-- What a declaration binds: a name, or names taken out of a value. -/
def bindingPattern (self : Grammar) (noLet : Bool) : Parser Tree := do
  match ← shape with
  | .word .. =>
    let (name, span) ← bindingName noLet
    return bindingNode name span
  | .punct .lbracket => arrayPattern self
  | .punct .lbrace => objectPattern self
  | _ => unexpected "yield, an identifier, [ or \x7b"

/-! ### Parameters -/

/-- Words that make a parameter a property of its class. -/
def accessWords : List String := ["public", "protected", "private", "readonly"]

/-- Passes an access modifier, if a name or pattern follows. -/
def eatAccess : Parser Bool := do
  if ← atAnyWord accessWords then
    let next := (← peek).shape
    if next.word?.isSome || next.isPunct .lbracket || next.isPunct .lbrace then
      bump
      return true
  return false

/-- Marks a pattern as optional. -/
def optionalPattern (pat : Tree) : Option Tree :=
  match pat.kind with
  | .binding n _ => some (.node pat.role (.binding n true) pat.span pat.kids)
  | .arrayPattern _ => some (.node pat.role (.arrayPattern true) pat.span pat.kids)
  | .objectPattern _ => some (.node pat.role (.objectPattern true) pat.span pat.kids)
  | _ => none

/-- A parameter that is no rest parameter: a pattern, a type, a default. -/
def formalParam (self : Grammar) : Parser Tree := do
  let lo ← curLo
  let hasAccess ← eatAccess
  let patLo ← curLo
  let mut pat ← bindingElement self
  let mut isOptional := false
  if ← eat .question then
    match optionalPattern pat with
    | some p =>
      pat := p
      isOptional := true
    | none => unless (← context).inDeclare do fail (← prevSpan) .optionalPattern
  let ann ← typeAnn? self
  if pat.kind == .assignPattern then
    if ann.isPresent then report ⟨patLo, ← prevHi⟩ .typeAfterDefault
  else pat := annotated pat ann (← spanFrom patLo)
  if ← eat .assign then
    if isOptional then report pat.span .optionalWithDefault
    let right ← self .assign
    if (← context).inDeclare then report (← spanFrom lo) .defaultInDeclaration
    pat := .node .pattern .assignPattern (← spanFrom lo) [pat, right]
  if hasAccess then report (← spanFrom lo) .parameterPropertyOutsideConstructor
  return pat

/-- A rest parameter, at its dots. -/
def restParam (self : Grammar) : Parser Tree := do
  let lo ← curLo
  expect .ellipsis
  let arg ← self (.pattern false)
  let mut arg := arg
  if ← eat .assign then
    let right ← self .assign
    report arg.span .restWithDefault
    arg := .node .pattern .assignPattern (← spanFrom lo) [arg, right]
  let ann ← typeAnn? self
  let span ← spanFrom lo
  if ← eat .question then report (← prevSpan) .restOptional
  return .node .pattern .rest span [arg, ann]

/-- Parameters up to the closing parenthesis, each read by `param` after its
decorators. -/
def paramList (self : Grammar) (param : Nat → List Tree → Parser Tree) : Parser (List Tree) := do
  let (acc, _) ← loop (([] : List Tree), (none : Option Span)) fun (acc, rest) => do
    if ← at_ .rparen then return none
    if let some span := rest then report span .restParameterNotLast
    let lo ← curLo
    let decorators := (← self .decorators).kids
    let isRest ← at_ .ellipsis
    let patLo ← curLo
    let p ←
      if isRest then do
        let pat ← restParam self
        pure (Tree.plain .param (← spanFrom lo) [.list decorators, pat])
      else param lo decorators
    let rest ← if isRest then pure (some (← spanFrom patLo)) else pure rest
    unless ← at_ .rparen do
      expect .comma
      if isRest && (← at_ .rparen) then report (← prevSpan) .commaAfterRest
    return some (p :: acc, rest)
  return acc.reverse

/-- The parameters of a function, up to the closing parenthesis. -/
def formalParams (self : Grammar) : Parser (List Tree) :=
  paramList self fun lo decorators => do
    let pat ← formalParam self
    return .plain .param (← spanFrom lo) [.list decorators, pat]

/-- The pattern of a parameter. -/
def paramPattern (p : Tree) : Tree := p.kid 1

/-- A parameter named `this`, which stands for no argument. -/
def isThisParam (p : Tree) : Bool :=
  match (paramPattern p).kind with
  | .binding "this" _ => true
  | _ => false

/-- All parameters are plain names, so that a directive may follow. -/
def areSimpleParams (ps : List Tree) : Bool :=
  ps.all fun p => match p.kind with
    | .param => match (paramPattern p).kind with
      | .binding .. => true
      | _ => false
    | .binding .. => true
    | _ => false

end Parser

end ConsoleStrip
