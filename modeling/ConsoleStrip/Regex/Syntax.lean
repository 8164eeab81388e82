/-
The syntax of regular expressions.

* `Regex.ClassItem`: what stands in a character class;
* `Regex.Ast`: an expression as it is written. Places are kept where a part
  can be refused.
-/
import ConsoleStrip.Regex.Fault

namespace ConsoleStrip

namespace Regex

/-- The classes that are written as a letter after a backslash. -/
inductive Perl where
  | digit
  | space
  | word
deriving Repr, DecidableEq, Inhabited

/-- The classes that are written as a name between colons. -/
inductive Ascii where
  | alnum | alpha | ascii | blank | cntrl | digit | graph | lower | print | punct | space | upper
  | word | xdigit
deriving Repr, DecidableEq, Inhabited

/-- The class with a name. -/
def Ascii.ofName? : String → Option Ascii
  | "alnum" => some alnum
  | "alpha" => some alpha
  | "ascii" => some ascii
  | "blank" => some blank
  | "cntrl" => some cntrl
  | "digit" => some digit
  | "graph" => some graph
  | "lower" => some lower
  | "print" => some print
  | "punct" => some punct
  | "space" => some space
  | "upper" => some upper
  | "word" => some word
  | "xdigit" => some xdigit
  | _ => none

/-- A property of characters, by its name, or by its name and a value. -/
inductive Property where
  | named (name : String)
  | valued (name value : String) (equal : Bool)
deriving Repr, DecidableEq, Inhabited

/-- A literal character. One of two hexadecimal digits may stand for a byte. -/
structure Literal where
  char : Char
  isByte : Bool
  span : Span
deriving Repr, DecidableEq, Inhabited

/-- How two sets of characters are combined. -/
inductive SetOp where
  | intersection
  | difference
  | symmetricDifference
deriving Repr, DecidableEq, Inhabited

/-- What stands in a character class. -/
inductive ClassItem where
  | literal (l : Literal)
  | range (first last : Literal)
  | ascii (k : Ascii) (negated : Bool) (span : Span)
  | perl (k : Perl) (negated : Bool) (span : Span)
  | property (p : Property) (negated : Bool) (span : Span)
  /-- A class in brackets. -/
  | nested (negated : Bool) (span : Span) (inner : ClassItem)
  | union (items : List ClassItem) (span : Span)
  | op (o : SetOp) (left right : ClassItem) (span : Span)
deriving Repr, Inhabited

/-- Where an item of a class stands. -/
def ClassItem.span : ClassItem → Span
  | literal l => l.span
  | range first last => ⟨first.span.start, last.span.stop⟩
  | ascii _ _ s | perl _ _ s | property _ _ s | nested _ s _ | union _ s | op _ _ _ s => s

/-- What a place in a text has to be. -/
inductive Assertion where
  | startLine
  | endLine
  | startText
  | endText
  | boundary
  | noBoundary
  | wordStart
  | wordEnd
  | wordStartHalf
  | wordEndHalf
deriving Repr, DecidableEq, Inhabited

/-- A flag. -/
inductive Flag where
  | ignoreCase
  | multiLine
  | dotAll
  | swapGreed
  | unicode
  | crlf
  | ignoreBlanks
deriving Repr, DecidableEq, Inhabited

/-- The flag with a letter. -/
def Flag.ofChar? : Char → Option Flag
  | 'i' => some ignoreCase
  | 'm' => some multiLine
  | 's' => some dotAll
  | 'U' => some swapGreed
  | 'u' => some unicode
  | 'R' => some crlf
  | 'x' => some ignoreBlanks
  | _ => none

/-- Flags that are set and flags that are cleared. -/
structure FlagChange where
  on : List Flag := []
  off : List Flag := []
deriving Repr, DecidableEq, Inhabited

/-- The new state of a flag, if it is changed. -/
def FlagChange.state (c : FlagChange) (f : Flag) : Option Bool :=
  if c.on.contains f then some true else if c.off.contains f then some false else none

/-- A regular expression as it is written. -/
inductive Ast where
  | empty
  | flags (c : FlagChange)
  | literal (l : Literal)
  | dot (span : Span)
  | assertion (a : Assertion) (span : Span)
  | perl (k : Perl) (negated : Bool) (span : Span)
  | property (p : Property) (negated : Bool) (span : Span)
  | set (item : ClassItem)
  | repetition (inner : Ast) (min : Nat) (max : Option Nat) (span : Span)
  | group (isCapture : Bool) (c : FlagChange) (inner : Ast) (span : Span)
  | alternation (branches : List Ast) (span : Span)
  | concat (parts : List Ast) (span : Span)
deriving Repr, Inhabited

/-- Where an expression stands. The empty one and a change of flags match
nothing of their own, so they stand nowhere. -/
def Ast.span? : Ast → Option Span
  | empty | flags _ => none
  | literal l => some l.span
  | set item => some item.span
  | dot s | assertion _ s | perl _ _ s | property _ _ s | repetition _ _ _ s | group _ _ _ s
  | alternation _ s | concat _ s => some s

/-! ### Depth -/

mutual

/-- The first part of an item of a class that is more than some levels deep. -/
def ClassItem.below? : ClassItem → Nat → Option Span
  | .nested _ span _, 0 | .op _ _ _ span, 0 => some span
  | .nested _ _ inner, n + 1 => inner.below? n
  | .op _ left right _, n + 1 => left.below? n <|> right.below? n
  | .union [] _, _ => none
  | .union (_ :: _) span, 0 => some span
  | .union items _, n + 1 => ClassItem.anyBelow? items n
  | _, _ => none

/-- The first part of some items that is more than some levels deep. -/
def ClassItem.anyBelow? : List ClassItem → Nat → Option Span
  | [], _ => none
  | i :: is, n => i.below? n <|> ClassItem.anyBelow? is n

end

mutual

/-- The first part of an expression that is more than some levels deep. What
has no parts is no level. -/
def Ast.below? : Ast → Nat → Option Span
  | .set item, n => item.below? n
  | .repetition _ _ _ span, 0 | .group _ _ _ span, 0 | .alternation _ span, 0
  | .concat _ span, 0 => some span
  | .repetition inner _ _ _, n + 1 | .group _ _ inner _, n + 1 => inner.below? n
  | .alternation parts _, n + 1 | .concat parts _, n + 1 => Ast.anyBelow? parts n
  | _, _ => none

/-- The first part of some expressions that is more than some levels deep. -/
def Ast.anyBelow? : List Ast → Nat → Option Span
  | [], _ => none
  | a :: as, n => a.below? n <|> Ast.anyBelow? as n

end

end Regex

end ConsoleStrip
