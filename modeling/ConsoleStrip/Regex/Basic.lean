/-
Regular expressions.

* `Regex`: an expression with its text;
* `Regex.compile`: the expression of a text;
* `Regex.occursIn`: some part of a text matches.
-/
import ConsoleStrip.Regex.Size

namespace ConsoleStrip

/-- A regular expression with its text. -/
structure Regex where
  pattern : String
  expr : Regex.Expr
  compiled : Regex.Expr.ofPattern pattern = .ok expr

namespace Regex

/-- What is said of an expression that is too large. -/
def sizeMessage : String :=
  "Compiled regex exceeds size limit of " ++ toString Expr.sizeLimit ++ " bytes."

/-- The expression of a text; what is wrong, as a message. -/
def compile (pattern : String) : Except String Regex :=
  match h : Expr.ofPattern pattern with
  | .ok expr => if expr.isTooLarge then .error sizeMessage else .ok ⟨pattern, expr, h⟩
  | .error f => .error (f.message pattern)

/-- Some part of a text matches. -/
def occursIn (r : Regex) (text : String) : Bool :=
  let cs := text.toList.toArray
  !(r.expr.ends cs (List.range (cs.size + 1))).isEmpty

end Regex

end ConsoleStrip
