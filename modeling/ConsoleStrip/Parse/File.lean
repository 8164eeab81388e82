/-
Files.

* `Parser.rule`: how each construct is read, given a reader of all;
* `Parser.grammar`: the reader of all constructs, for a depth of nesting;
* `ParsedFile`, `Source.parse`: a source text read as a file. A text with any
  fault, even one that did not end the reading, is refused.
-/
import ConsoleStrip.Parse.Module

namespace ConsoleStrip

namespace Parser

/-- How each construct is read, given a reader of the constructs inside it. -/
def rule (self : Grammar) : Grammar
  | .expr => sequence self
  | .assign => assign self
  | .binary => binary self
  | .unary => unary self
  | .lhs => lhs self
  | .newExpr afterNew => newExpr self afterNew
  | .operators left min => operators self left min
  | .finishAssign lo left => finishAssign self lo left
  | .pattern noLet => bindingPattern self noLet
  | .type => typeNode self
  | .nonConditionalType => nonConditionalType self
  | .prefixedType => prefixedType self
  | .returnType sign => returnTypeAnn self sign
  | .typeArgs => typeArgList self
  | .heritage => heritageElement self
  | .decorators => decoratorList self
  | .element nested => element self nested
  | .block => block self
  | .statement declarations => statement self declarations
  | .ifStatement => ifStatement self
  | .item => item self
  | .namespaceDecl lo => namespaceDecl self lo
  | .classTail lo decorators isAbstract named => classTail self lo decorators isAbstract named

/-- A reader of all constructs that are nested less deep than `depth`. -/
def grammar : (depth : Nat) → Grammar
  | 0 => fun _ => failHere .nesting
  | depth + 1 => rule (grammar depth)

/-- A depth that the constructs of a text cannot reach: each character opens
fewer of them. -/
def depthFor (src : Source) : Nat := (src.size + 2) * 64

end Parser

/-- A source text and what it was read as. Its calls have the shape of calls. -/
structure ParsedFile where
  source : Source
  module : Node
  comments : Attached
  shaped : module.Shaped

namespace Source

/-- The first line, if it names an interpreter, and where the rest starts. -/
def firstLine (src : Source) : Option String × Nat :=
  if src.hasAt 0 '#' && src.hasAt 1 '!' then
    let stop := Trivia.lineEnd src 2
    (some (src.text 2 stop), stop)
  else (none, 0)

/-- The state in which the first token is the current one. -/
def startState (src : Source) : State :=
  let lo := src.firstLine.2
  let r := Parser.tokenAfter src (.tokenIn false) (Trivia.scanFirst src lo)
  have onward : r.Onward lo := Parser.tokenAfter_onward (.tokenIn false)
  { tok := r.next
    prev := ⟨lo, lo⟩
    faults := r.trivia.faults ++ r.faults
    comments := Parser.attachTrivia {} lo r.next r.trivia
    lo_le_hi := onward.lo_le_hi
    apart := onward.attach (.nil 0 lo) }

/-- A source text read as a file. The fault that ended the reading is given,
else the first one that was found. -/
def parse (src : Source) (markup : Bool) : Except Fault ParsedFile :=
  let p := Parser.file (Parser.grammar (Parser.depthFor src)) src.firstLine.1
  match (p.run ⟨src, markup⟩).run.run src.startState with
  | (.error fault, _) => .error fault
  | (.ok module, s) =>
    match s.faults.head? with
    | some fault => .error fault
    | none => .ok ⟨src, module, s.comments, module.shaped⟩

end Source

end ConsoleStrip
