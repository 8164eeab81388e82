/-
What regular expressions mean.

* `Regex.Expr`: what an expression means, with all flags resolved;
* `Regex.Expr.ends`: where a match can end that starts at one of some places;
* `Regex.Expr.ofPattern`: what the expression of a text means.

Only whether something matches is asked, so how much a repetition prefers to
take does not count, and the places that a match can reach are a set.
-/
import ConsoleStrip.Regex.CharSet
import ConsoleStrip.Regex.Parser

namespace ConsoleStrip

namespace Regex

/-- What a place in a text has to be. -/
inductive Look where
  | startText
  | endText
  | startLine (crlf : Bool)
  | endLine (crlf : Bool)
  /-- Whether there is a character of a word before the place and after it. -/
  | word (ok : Bool → Bool → Bool) (unicode : Bool)

/-- A regular expression. -/
inductive Expr where
  | empty
  | char (c : Char)
  | set (s : CharSet)
  | look (l : Look)
  | capture (a : Expr)
  | seq (a b : Expr)
  | alt (a b : Expr)
  | repetition (a : Expr) (min : Nat) (max : Option Nat)

/-! ### Places -/

/-- A place between two characters is of a kind. -/
def Look.holds (before after : Option Char) : Look → Bool
  | startText => before.isNone
  | endText => after.isNone
  | startLine false => before.all (· == '\n')
  | startLine true =>
    before.all fun c => c == '\n' || (c == '\r' && after != some '\n')
  | endLine false => after.all (· == '\n')
  | endLine true =>
    after.all fun c => c == '\r' || (c == '\n' && before != some '\r')
  | word ok unicode =>
    let isWord : Option Char → Bool := fun c => c.any (Perl.set unicode .word)
    ok (isWord before) (isWord after)

/-- The character before a place. -/
def charBefore? (text : Array Char) (i : Nat) : Option Char :=
  if i == 0 then none else text[i - 1]?

/-! ### Matching -/

/-- The places in either of two lists in increasing order. -/
def mergePlaces : List Nat → List Nat → List Nat
  | [], ys => ys
  | xs, [] => xs
  | x :: xs, y :: ys =>
    if x < y then x :: mergePlaces xs (y :: ys)
    else if y < x then y :: mergePlaces (x :: xs) ys
    else x :: mergePlaces xs ys
termination_by xs ys => xs.length + ys.length

/-- The places in a list in increasing order that are not in another one. -/
def otherPlaces : List Nat → List Nat → List Nat
  | [], _ => []
  | xs, [] => xs
  | x :: xs, y :: ys =>
    if x < y then x :: otherPlaces xs (y :: ys)
    else if y < x then otherPlaces (x :: xs) ys
    else otherPlaces xs ys
termination_by xs ys => xs.length + ys.length

/-- A step done a number of times, as long as it leads to other places. -/
def times (step : List Nat → List Nat) : Nat → List Nat → List Nat
  | 0, ps => ps
  | n + 1, ps =>
    let next := step ps
    if next == ps then ps else times step n next

/-- The places that have been reached and those that are reached from some of
them, the last ones, by doing a step at most a number of times. -/
def upTo (step : List Nat → List Nat) : Nat → (reached last : List Nat) → List Nat
  | 0, reached, _ => reached
  | n + 1, reached, last =>
    match otherPlaces (step last) reached with
    | [] => reached
    | next => upTo step n (mergePlaces reached next) next

namespace Expr

/-- The places where a match can end that starts at one of some places. A text
of `n` characters has `n + 1` places, so a repetition that goes on after
`n + 1` times reaches no others. -/
def ends (text : Array Char) : Expr → List Nat → List Nat
  | empty, ps => ps
  | char c, ps => (ps.filter fun i => text[i]? == some c).map (· + 1)
  | capture a, ps => a.ends text ps
  | set s, ps => (ps.filter fun i => (text[i]?).any s).map (· + 1)
  | look l, ps => ps.filter fun i => l.holds (charBefore? text i) text[i]?
  | seq a b, ps => b.ends text (a.ends text ps)
  | alt a b, ps => mergePlaces (a.ends text ps) (b.ends text ps)
  | repetition a least most, ps =>
    let enough := text.size + 1
    let more := match most with
      | none => enough
      | some m => min (m - least) enough
    let start := times (a.ends text) (min least enough) ps
    upTo (a.ends text) more start start

/-! ### Meaning -/

/-- The flags that change what an expression means. -/
structure Flags where
  ignoreCase : Bool := false
  multiLine : Bool := false
  dotAll : Bool := false
  unicode : Bool := true
  crlf : Bool := false
deriving Repr, DecidableEq, Inhabited

/-- The flags after a change. -/
def Flags.change (f : Flags) (c : FlagChange) : Flags where
  ignoreCase := (c.state .ignoreCase).getD f.ignoreCase
  multiLine := (c.state .multiLine).getD f.multiLine
  dotAll := (c.state .dotAll).getD f.dotAll
  unicode := (c.state .unicode).getD f.unicode
  crlf := (c.state .crlf).getD f.crlf

/-- A set of bytes has to stay within ASCII, or it would match a part of a
character. -/
def checkBytes (f : Flags) (span : Span) (s : CharSet) : Except Fault CharSet :=
  if !f.unicode && !s.isAscii then .error ⟨.invalidUtf8, span, none⟩ else .ok s

/-- The character of a literal. A byte above ASCII is none. -/
def literalChar (f : Flags) (l : Literal) : Except Fault Char :=
  if !f.unicode && l.isByte && 0x80 ≤ l.char.toNat then .error ⟨.invalidUtf8, l.span, none⟩
  else .ok l.char

/-- The character of a literal in a class. -/
def classChar (f : Flags) (l : Literal) : Except Fault Char := do
  let c ← literalChar f l
  if !f.unicode && 0x80 ≤ c.toNat then throw ⟨.unicodeNotAllowed, l.span, none⟩
  return c

/-- A set with the flags applied, and turned around, if wanted. -/
def closeSet (f : Flags) (negated : Bool) (span : Span) (s : CharSet) : Except Fault CharSet :=
  checkBytes f span (s.foldThenNegate f.ignoreCase negated f.unicode)

/-- The set of a letter after a backslash. -/
def perlSet (f : Flags) (k : Perl) (negated : Bool) (span : Span) : Except Fault CharSet :=
  checkBytes f span (CharSet.foldThenNegate false negated f.unicode (k.set f.unicode))

/-- The set of a property. -/
def propertySet (f : Flags) (p : Property) (negated : Bool) (span : Span) :
    Except Fault CharSet := do
  unless f.unicode do throw ⟨.unicodeNotAllowed, span, none⟩
  match p.set with
  | .error c => throw ⟨c, span, none⟩
  | .ok s => closeSet f (p.isNegated negated) span s

mutual

/-- The set of an item of a class. -/
def itemSet (f : Flags) : ClassItem → Except Fault CharSet
  | .literal l => return .single (← classChar f l)
  | .range a b => return .range (← classChar f a) (← classChar f b)
  | .ascii k negated span => closeSet f negated span k.set
  | .perl k negated span => perlSet f k negated span
  | .property p negated span => propertySet f p negated span
  | .nested negated span inner => do closeSet f negated span (← itemSet f inner)
  | .union items _ => itemsSet f items
  | .op o left right _ => do
    let s ← itemSet f left
    let t ← itemSet f right
    let fold := CharSet.foldThenNegate f.ignoreCase false f.unicode
    return .combine o (fold s) (fold t)

/-- The set of some items. -/
def itemsSet (f : Flags) : List ClassItem → Except Fault CharSet
  | [] => return fun _ => false
  | i :: is => return .union (← itemSet f i) (← itemsSet f is)

end

/-- A literal outside a class. -/
def literal (f : Flags) (l : Literal) : Except Fault Expr := do
  let c ← literalChar f l
  if f.ignoreCase then return .set ((CharSet.single c).foldThenNegate true false f.unicode)
  return .char c

/-- An expression without the captures around it. -/
def bare : Expr → Expr
  | .capture a => bare a
  | e => e

/-- An expression that is repeated. A repetition by a sign of one by a sign is
again one: it may be empty if one of them may, and has an end if both have. -/
def repeat_ (a : Expr) (least : Nat) (most : Option Nat) : Expr :=
  let isSign (least : Nat) (most : Option Nat) : Bool := least ≤ 1 && most.all (· == 1)
  match bare a with
  | .repetition b least' most' =>
    if isSign least most && isSign least' most' then
      .repetition b (least * least') (if most.isSome && most'.isSome then some 1 else none)
    else .repetition a least most
  | _ => .repetition a least most

/-- The set of a dot. -/
def dotSet (f : Flags) (span : Span) : Except Fault CharSet := do
  unless f.unicode do throw ⟨.invalidUtf8, span, none⟩
  if f.dotAll then return fun _ => true
  if f.crlf then return fun c => c != '\n' && c != '\r'
  return fun c => c != '\n'

/-- What an assertion asks. -/
def lookOf (f : Flags) : Assertion → Look
  | .startText => .startText
  | .endText => .endText
  | .startLine => if f.multiLine then .startLine f.crlf else .startText
  | .endLine => if f.multiLine then .endLine f.crlf else .endText
  | .boundary => .word (· != ·) f.unicode
  | .noBoundary => .word (· == ·) f.unicode
  | .wordStart => .word (fun before after => !before && after) f.unicode
  | .wordEnd => .word (fun before after => before && !after) f.unicode
  | .wordStartHalf => .word (fun before _ => !before) f.unicode
  | .wordEndHalf => .word (fun _ after => !after) f.unicode

mutual

/-- What an expression means, and the flags after it. A change of flags lasts
to the end of the group that it is in. -/
def ofAst : Ast → StateT Flags (Except Fault) Expr
  | .empty => return .empty
  | .flags c => do
    modify (·.change c)
    return .empty
  | .literal l => do literal (← get) l
  | .dot span => do return .set (← dotSet (← get) span)
  | .assertion a _ => do return .look (lookOf (← get) a)
  | .perl k negated span => do return .set (← perlSet (← get) k negated span)
  | .property p negated span => do return .set (← propertySet (← get) p negated span)
  | .set item => do return .set (← itemSet (← get) item)
  | .repetition inner least most _ => do return repeat_ (← ofAst inner) least most
  | .group isCapture c inner _ => do
    let outside ← get
    modify (·.change c)
    let e ← ofAst inner
    modify fun _ => outside
    return if isCapture then .capture e else e
  | .alternation branches _ => ofBranches branches
  | .concat parts _ => ofParts parts

/-- What one of some expressions means. -/
def ofBranches : List Ast → StateT Flags (Except Fault) Expr
  | [] => return .empty
  | [a] => ofAst a
  | a :: as => return .alt (← ofAst a) (← ofBranches as)

/-- What some expressions mean one after another. -/
def ofParts : List Ast → StateT Flags (Except Fault) Expr
  | [] => return .empty
  | a :: as => return .seq (← ofAst a) (← ofParts as)

end

/-- What the expression of a text means. -/
def ofPattern (pattern : String) : Except Fault Expr := do
  (ofAst (← Ast.parse pattern)).run' {}

end Expr

end Regex

end ConsoleStrip
