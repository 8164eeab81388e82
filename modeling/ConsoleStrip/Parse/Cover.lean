/-
Expressions that turn out to be patterns.

The head of an arrow function and the left side of an assignment are read as
expressions first.

* `Parser.toPattern`: an expression read again as a pattern;
* `Parser.assignTarget`: an expression read again as what is assigned to;
* `Node.isSimpleTarget`: an expression that names one thing to assign to.
-/
import ConsoleStrip.Parse.Class

namespace ConsoleStrip

/-- What a pattern is read for. -/
inductive PatternUse where
  | assign
  | assignElement
  | binding
deriving DecidableEq

/-- The use of what is inside a pattern. -/
def PatternUse.element : PatternUse → PatternUse
  | .assign => .assignElement
  | use => use

/-- An expression that names one thing to assign to. -/
def Node.isSimpleTarget : Node → Bool
  | .node _ (.ident name) _ _ => name != "eval" && name != "arguments"
  | .node _ .member _ _ => true
  | .node _ .superMember _ _ => true
  | .node _ .paren _ (e :: _) => e.isSimpleTarget
  | .node _ .nonNull _ (e :: _) => e.isSimpleTarget
  | .node _ .asExpr _ (e :: _) => e.isSimpleTarget
  | .node _ .satisfies _ (e :: _) => e.isSimpleTarget
  | .node _ .typeAssertion _ (e :: _) => e.isSimpleTarget
  | .node _ .instantiation _ (e :: _) => e.isSimpleTarget
  | _ => false

/-- The kinds of expressions that can stand left of an assignment. -/
def Kind.isTarget : Kind → Bool
  | .ident _ | .member | .superMember | .paren | .optionalChain _ | .nonNull | .asExpr
  | .satisfies | .typeAssertion | .instantiation => true
  | _ => false

/-- The kinds of expressions that could name something to assign to, judging
by their form alone. -/
def Kind.isOperand : Kind → Bool
  | .ident _ | .member | .superMember | .call | .new | .str _ | .num _ | .bigint _ | .bool _ | .null
  | .regex _ | .functionExpr | .classExpr | .paren | .template | .nonNull | .asExpr | .satisfies
  | .typeAssertion | .instantiation => true
  | _ => false

namespace Parser

/-- An expression in the place of a pattern. -/
def exprPattern (e : Tree) : Tree := .node .pattern .exprPattern e.span [e.asRole .expression]

/-- The target of an assignment in the place of a pattern. -/
def targetPattern (target : Tree) : Tree :=
  match target.kind with
  | .ident name => bindingNode name target.span
  | .arrayPattern _ | .objectPattern _ => target.asRole .pattern
  | _ => exprPattern target

/-- An expression that is no literal, name or assignment, read again as a
pattern. -/
def leafPattern (use : PatternUse) (e : Tree) : Parser Tree := do
  match use with
  | .binding =>
    report e.span .notAPattern
    return exprPattern e
  | .assign =>
    unless e.toNode.isSimpleTarget do report e.span .assignmentTargetNotReference
    return exprPattern e
  | .assignElement =>
    if e.kind.isOperand then unless e.toNode.isSimpleTarget do report e.span .cannotAssign
    else report e.span .notAPattern
    return exprPattern e

mutual

/-- A shaped expression read again as a pattern. -/
def patternOf (use : PatternUse) : (e : Node) → e.Shaped → Parser Tree
  | .node _ .object s ps, h => do
    let comma ← lastComma? s.lo
    let props ← propPatternsOf use.element comma ps h.below
    return .node .pattern (.objectPattern false) s [.list props, .absent]
  | .node _ .array s es, h => do
    let comma ← lastComma? s.lo
    let elems ← elemPatternsOf use.element comma es h.below
    return .node .pattern (.arrayPattern false) s [.list elems, .absent]
  | .node _ (.ident name) s _, _ => do
    if name == "eval" || name == "arguments" then
      report s (match use with
        | .binding => .evalOrArgumentsBound
        | .assign => .assignmentTargetNotReference
        | .assignElement => .cannotAssign)
    return bindingNode name s
  | .node r (.assign .assign) s [left, right], h => do
    if use == .assign then leafPattern use ⟨.node r (.assign .assign) s [left, right], h⟩
    else
      let target : Tree := ⟨left, h.below left (by simp)⟩
      let value : Tree := ⟨right, h.below right (by simp)⟩
      return .node .pattern .assignPattern s [targetPattern target, value]
  | e, h => leafPattern use ⟨e, h⟩

/-- The properties of an object literal read again as those of a pattern. -/
def propPatternsOf (use : PatternUse) (comma : Option Span) :
    (ps : List Node) → (∀ p ∈ ps, p.Shaped) → Parser (List Tree)
  | [], _ => pure []
  | p :: rest, h => do
    let q ← propPatternOf use comma rest.isEmpty p (h p (by simp))
    return q :: (← propPatternsOf use comma rest fun p hp => h p (by simp [hp]))

/-- A property of an object literal read again as one of a pattern. -/
def propPatternOf (use : PatternUse) (comma : Option Span) (isLast : Bool) :
    (p : Node) → p.Shaped → Parser Tree
  | .node _ (.shorthand name) s _, _ =>
    return .plain .shorthandPattern s [.plain (.binding name false) s [.absent], .absent]
  | .node _ (.shorthandInit name) s [key, value], h =>
    return .plain .shorthandPattern s
      [.plain (.binding name false) key.span [.absent], ⟨value, h.below value (by simp)⟩]
  | .node _ .keyValue s [key, value], h => do
    let v ← patternOf use value (h.below value (by simp))
    return .plain .keyValuePattern s [⟨key, h.below key (by simp)⟩, v]
  | .node _ .spread s [e], h => do
    if !isLast then report s .restNotLast
    else if let some c := comma then report c .commaAfterRest
    let inner : Tree := ⟨e, h.below e (by simp)⟩
    if use == .binding then
      match inner.kind with
      | .ident name => return .plain .rest s [bindingNode name inner.span, .absent]
      | _ =>
        report s .dotsWithoutIdentifier
        return .plain .rest s [exprPattern inner, .absent]
    let arg ← patternOf use e inner.shaped
    if arg.kind == .assignPattern then report s .restWithDefault
    return .plain .rest s [arg, .absent]
  | p, _ => fail p.span .notAPattern

/-- The elements of an array literal read again as those of a pattern. Holes
at the end are dropped. -/
def elemPatternsOf (use : PatternUse) (comma : Option Span) :
    (es : List Node) → (∀ e ∈ es, e.Shaped) → Parser (List Tree)
  | [], _ => pure []
  | .absent :: rest, h => do
    if rest.all (!·.isPresent) then return []
    return .absent :: (← elemPatternsOf use comma rest fun e he => h e (by simp [he]))
  | .node r .spread s [e] :: rest, h => do
    if rest.isEmpty then
      if let some c := comma then report c .commaAfterRest
      let arg ← patternOf use e ((h (.node r .spread s [e]) (by simp)).below e (by simp))
      if arg.kind == .assignPattern then report e.span .restWithDefault
      return [.node .pattern .rest s [arg, .absent]]
    report s .restNotLast
    elemPatternsOf use comma rest fun e he => h e (by simp [he])
  | e :: rest, h => do
    let p ← patternOf use e (h e (by simp))
    return p :: (← elemPatternsOf use comma rest fun e he => h e (by simp [he]))

end

/-- An expression read again as a pattern. -/
def toPattern (use : PatternUse) (e : Tree) : Parser Tree := patternOf use e e.shaped

/-- An expression read again as the target of `=`. -/
def assignTarget (e : Tree) : Parser Tree := do
  match e.kind with
  | .array | .object => return (← toPattern .assign e).asRole .plain
  | k =>
    unless e.toNode.isSimpleTarget do report e.span .assignmentTargetNotReference
    unless k.isTarget do fail e.span .invalidTarget
    return e.asRole .plain

/-- An expression read again as the target of an assignment that also reads
it. -/
def updateTarget (e : Tree) : Parser Tree := do
  unless e.toNode.isSimpleTarget do report e.span .assignmentTargetNotReference
  unless e.kind.isTarget do fail e.span .invalidTarget
  return e.asRole .plain

end Parser

end ConsoleStrip
