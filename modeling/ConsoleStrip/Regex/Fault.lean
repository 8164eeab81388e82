/-
What can be wrong with a regular expression.

* `Regex.Place`, `Regex.Span`: where it is, by line and column;
* `Regex.Cause`: what is wrong;
* `Regex.Fault.message`: the expression with carets under what is wrong, and
  the cause. An expression of several lines is shown with line numbers.
-/

namespace ConsoleStrip

namespace Regex

/-- A place in an expression: the number of characters before it, and the line
and the column, counted from one. -/
structure Place where
  index : Nat := 0
  line : Nat := 1
  column : Nat := 1
deriving Repr, DecidableEq, Inhabited

/-- The place after a character. -/
def Place.after (p : Place) (c : Char) : Place :=
  if c == '\n' then ⟨p.index + 1, p.line + 1, 1⟩ else ⟨p.index + 1, p.line, p.column + 1⟩

/-- A part of an expression. -/
structure Span where
  start : Place
  stop : Place
deriving Repr, DecidableEq, Inhabited

/-- What is wrong with an expression. -/
inductive Cause where
  | classEscapeInvalid
  | classRangeInvalid
  | classRangeLiteral
  | classUnclosed
  | decimalInvalid
  | hexEmpty
  | hexInvalid
  | hexInvalidDigit
  | escapeUnexpectedEnd
  | escapeUnrecognized
  | flagDanglingNegation
  | flagDuplicate
  | flagRepeatedNegation
  | flagUnexpectedEnd
  | flagUnrecognized
  | groupNameDuplicate
  | groupNameEmpty
  | groupNameInvalid
  | groupNameUnexpectedEnd
  | groupUnclosed
  | groupUnopened
  | tooDeep
  | countInvalid
  | countEmpty
  | countUnclosed
  | repetitionMissing
  | boundaryUnclosed
  | boundaryUnrecognized
  | boundaryUnexpectedEnd
  | unicodeClassInvalid
  | backreference
  | lookAround
  | unicodeNotAllowed
  | invalidUtf8
  | propertyNotFound
  | propertyValueNotFound
deriving Repr, DecidableEq, Inhabited

/-- How deep an expression may be nested. -/
def nestLimit : Nat := 250

/-- How a cause is said. -/
def Cause.message : Cause → String
  | classEscapeInvalid => "invalid escape sequence found in character class"
  | classRangeInvalid => "invalid character class range, the start must be <= the end"
  | classRangeLiteral => "invalid range boundary, must be a literal"
  | classUnclosed => "unclosed character class"
  | decimalInvalid => "decimal literal invalid"
  | hexEmpty => "hexadecimal literal empty"
  | hexInvalid => "hexadecimal literal is not a Unicode scalar value"
  | hexInvalidDigit => "invalid hexadecimal digit"
  | escapeUnexpectedEnd => "incomplete escape sequence, reached end of pattern prematurely"
  | escapeUnrecognized => "unrecognized escape sequence"
  | flagDanglingNegation => "dangling flag negation operator"
  | flagDuplicate => "duplicate flag"
  | flagRepeatedNegation => "flag negation operator repeated"
  | flagUnexpectedEnd => "expected flag but got end of regex"
  | flagUnrecognized => "unrecognized flag"
  | groupNameDuplicate => "duplicate capture group name"
  | groupNameEmpty => "empty capture group name"
  | groupNameInvalid => "invalid capture group character"
  | groupNameUnexpectedEnd => "unclosed capture group name"
  | groupUnclosed => "unclosed group"
  | groupUnopened => "unopened group"
  | tooDeep =>
    "exceed the maximum number of nested parentheses/brackets (" ++ toString nestLimit ++ ")"
  | countInvalid => "invalid repetition count range, the start must be <= the end"
  | countEmpty => "repetition quantifier expects a valid decimal"
  | countUnclosed => "unclosed counted repetition"
  | repetitionMissing => "repetition operator missing expression"
  | boundaryUnclosed =>
    "special word boundary assertion is either unclosed or contains an invalid character"
  | boundaryUnrecognized =>
    "unrecognized special word boundary assertion, valid choices are: "
      ++ "start, end, start-half or end-half"
  | boundaryUnexpectedEnd =>
    "found either the beginning of a special word boundary or a bounded repetition on a \\b "
      ++ "with an opening brace, but no closing brace"
  | unicodeClassInvalid => "invalid Unicode character class"
  | backreference => "backreferences are not supported"
  | lookAround => "look-around, including look-ahead and look-behind, is not supported"
  | unicodeNotAllowed => "Unicode not allowed here"
  | invalidUtf8 => "pattern can match invalid UTF-8"
  | propertyNotFound => "Unicode property not found"
  | propertyValueNotFound => "Unicode property value not found"

/-- What is wrong with an expression, and where. Something that is there twice
has two places. -/
structure Fault where
  cause : Cause
  span : Span
  other : Option Span := none
deriving Repr, Inhabited

namespace Fault

/-- The lines of a text. One that is empty after the last line break is none. -/
def linesOf (cs : List Char) : List (List Char) :=
  let ls := cs.splitOn '\n'
  let ls := if ls.getLast? == some [] then ls.dropLast else ls
  ls.map fun l => if l.getLast? == some '\r' then l.dropLast else l

/-- The spans of a fault, in order. -/
def spans (f : Fault) : List Span :=
  match f.other with
  | none => [f.span]
  | some o => if o.start.index ≤ f.span.start.index then [o, f.span] else [f.span, o]

/-- Some characters of one kind. -/
def fill (n : Nat) (c : Char) : List Char := List.replicate n c

/-- The carets under spans of one line, from a column counted from zero. -/
def carets (column : Nat) : List Span → List Char
  | [] => []
  | s :: rest =>
    let before := s.start.column - 1 - column
    let width := max 1 (s.stop.column - s.start.column)
    fill before ' ' ++ fill width '^' ++ carets (column + before + width) rest

/-- The lines of an expression, each followed by its carets. -/
def notated (numberWidth : Nat) (inLine : List Span) : (number : Nat) → List (List Char) → String
  | _, [] => ""
  | number, l :: rest =>
    let shown := toString number
    let margin :=
      if numberWidth == 0 then "    "
      else String.ofList (fill (numberWidth - shown.length) ' ') ++ shown ++ ": "
    let here := inLine.filter (·.start.line == number)
    let notes :=
      if here.isEmpty then ""
      else String.ofList (fill margin.length ' ' ++ carets 0 here) ++ "\n"
    margin ++ String.ofList l ++ "\n" ++ notes ++ notated numberWidth inLine (number + 1) rest

/-- A span over several lines. -/
def acrossLines (s : Span) : String :=
  "on line " ++ toString s.start.line ++ " (column " ++ toString s.start.column
    ++ ") through line " ++ toString s.stop.line
    ++ " (column " ++ toString (s.stop.column - 1) ++ ")\n"

/-- What is wrong with an expression. -/
def message (f : Fault) (pattern : String) : String :=
  let cs := pattern.toList
  let ls := linesOf cs
  let isLong := cs.contains '\n'
  let count := if cs.getLast? == some '\n' then ls.length + 1 else ls.length
  let numberWidth := if count ≤ 1 then 0 else (toString count).length
  let (inLine, across) := f.spans.partition fun s => s.start.line == s.stop.line
  let shown := notated numberWidth inLine 1 ls
  let divider := if isLong then String.ofList (fill 79 '~') ++ "\n" else ""
  "regex parse error:\n" ++ divider ++ shown ++ divider
    ++ (if isLong then String.join (across.map acrossLines) else "")
    ++ "error: " ++ f.cause.message

end Fault

end Regex

end ConsoleStrip
