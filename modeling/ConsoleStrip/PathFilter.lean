/-
Filters on paths.

* `PathFilter`: a text that a path has in it, or a regular expression;
* `PathFilter.accepts`: a path passes a filter;
* `PathFilter.ofArgument`: a filter as it is written on a command line;
* `PathFilter.decoder`, `PathFilter.toJson`: a filter in JSON, where a string
  is a text and an object has a regular expression.
-/
import ConsoleStrip.Json.Decoder
import ConsoleStrip.Regex.Basic
import ConsoleStrip.Strip.Marker
import ConsoleStrip.Text.Quoted

namespace ConsoleStrip

/-- A filter on paths. -/
inductive PathFilter where
  /-- A text that a path has in it; the two signs that separate folders are
  the same. -/
  | literal (text : String)
  /-- A regular expression for the path as it is. -/
  | pattern (r : Regex)

namespace PathFilter

/-- A path with one sign that separates folders. -/
def withSlashes (path : String) : List Char :=
  path.toList.map fun c => if c == '\\' then '/' else c

/-- A path passes a filter. -/
def accepts : PathFilter → String → Bool
  | literal text, path => ConsoleStrip.occursIn (withSlashes text) (withSlashes path)
  | pattern r, path => r.occursIn path

/-- A filter as it is written on a command line: what follows `re:` is a
regular expression. -/
def ofArgument (arg : String) : Except String PathFilter :=
  match arg.toList with
  | 'r' :: 'e' :: ':' :: rest => return .pattern (← Regex.compile (String.ofList rest))
  | _ => .ok (.literal arg)

/-- The text that a filter is written with. -/
def text : PathFilter → String
  | literal text => text
  | pattern r => r.pattern

/-- A filter as it is shown. -/
def shown (f : PathFilter) : String :=
  (match f with
    | literal _ => "Literal"
    | pattern _ => "Pattern") ++ "(" ++ quotedText f.text ++ ")"

/-! ### JSON -/

/-- A filter in JSON. -/
def toJson : PathFilter → Json
  | literal text => .str text
  | pattern r => .obj [("pattern", .str r.pattern)]

/-- The shape of a value that is no filter. -/
def noFilter {α : Type} : Except Json.Cause α := .error (.noVariant "RawPathFilter")

/-- The regular expression of a value. -/
def ofPattern : Json → Except Json.Cause PathFilter
  | .str s =>
    match Regex.compile s with
    | .ok r => .ok (.pattern r)
    | .error message => .error (.refused message)
  | _ => noFilter

/-- The filter of a value: a string, an object with one member `pattern`, or a
list of the regular expression alone. -/
def ofJson : Json → Except Json.Cause PathFilter
  | .str s => .ok (.literal s)
  | .obj ms =>
    match ms.filter (·.1 == "pattern") with
    | [(_, v)] => ofPattern v
    | _ => noFilter
  | .arr [v] => ofPattern v
  | _ => noFilter

/-- How a filter is read. -/
def decoder : Json.Decoder PathFilter := .viaValue ofJson

end PathFilter

end ConsoleStrip
