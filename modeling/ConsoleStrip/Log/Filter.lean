/-
Which events are logged.

* `LogFilter`: rules, each with the least level that it lets pass and the
  events that it is about;
* `LogFilter.parse`: rules as they are written, between commas;
* `LogFilter.allows`: an event is logged. Of the rules about it the most
  specific one decides.
-/
import ConsoleStrip.Event
import ConsoleStrip.Text.Blank
import ConsoleStrip.Text.Property

namespace ConsoleStrip

/-- The part of the program that an event comes from. -/
def Event.target : Event → String
  | call .. => "keep_console::core::rewriter"
  | transformed .. | unsupported _ | excluded _ => "keep_console::core::transform"
  | unknownMember _ | configLoaded _ => "keep_console::config"
  | configResolved _ => "keep_console::cli::commands::strip"
  | badIgnore .. | unreadable _ => "keep_console::cli::scan"

/-- A rule. -/
structure LogRule where
  /-- The least level that passes; without one, nothing does. -/
  least : Option Level
  /-- What the part of the program starts with. -/
  target : Option String := none
  /-- A span that encloses the event. There are none. -/
  span : Option String := none
  /-- Fields that the event has to have, with a value to have, if given. -/
  fields : List (String × Option String) := []
deriving Repr, DecidableEq, Inhabited

/-- What is wrong with a rule. -/
inductive LogFault where
  | directive
  | level
deriving Repr, DecidableEq, Inhabited

/-- How a fault is said. -/
def LogFault.message : LogFault → String
  | directive => "invalid filter directive"
  | level =>
    let reason := "error parsing level filter: expected one of \"off\", \"error\", \"warn\", "
      ++ "\"info\", \"debug\", \"trace\", or a number 0-5"
    reason ++ ": " ++ reason

namespace LogRule

/-- A number in decimal digits, perhaps after a plus sign. -/
def number? (cs : List Char) : Option Nat :=
  let ds := match cs with
    | '+' :: rest => rest
    | _ => cs
  if ds.isEmpty || !ds.all Char.isDigit then none
  else some (ds.foldl (fun n d => 10 * n + (d.toNat - '0'.toNat)) 0)

/-- The least level with a name or a number; the inner value is none if
nothing passes. -/
def level? (name : String) : Option (Option Level) :=
  match number? name.toList with
  | some 0 => some none
  | some 1 => some (some .error)
  | some 2 => some (some .warn)
  | some 3 => some (some .info)
  | some 4 => some (some .debug)
  | some 5 => some (some .trace)
  | _ =>
    match name.toLower with
    | "error" => some (some .error)
    | "warn" => some (some .warn)
    | "info" => some (some .info)
    | "debug" => some (some .debug)
    | "trace" => some (some .trace)
    | "off" => some none
    | _ => none

/-- The level that a rule ends with. With none, all passes. -/
def levelOf (cs : List Char) : Except LogFault (Option Level) :=
  if cs.isEmpty then .ok (some .trace)
  else
    match level? (String.ofList cs) with
    | some l => .ok l
    | none => .error .level

/-- A field, with a value, if one follows an equals sign. -/
def fieldOf (cs : List Char) : Except LogFault (String × Option String) :=
  if cs.isEmpty then .error .directive
  else
    match (String.ofList cs).splitOn "=" with
    | name :: value :: _ => .ok (name, some value)
    | _ => .ok (String.ofList cs, none)

/-- What follows the closing bracket of a span. -/
def afterSpan (r : LogRule) : List Char → Except LogFault LogRule
  | [] => .ok r
  | '=' :: rest => return { r with least := ← levelOf rest }
  | _ => .error .directive

/-- What follows the opening bracket of a span. -/
def spanOf (r : LogRule) (cs : List Char) : Except LogFault LogRule := do
  match cs.span fun c => c != ']' && c != '\x7b' with
  | (name, ']' :: rest) => afterSpan { r with span := some (String.ofList name) } rest
  | (name, _ :: rest) =>
    let (inner, rest) := rest.span (· != '\x7d')
    let fields ← (inner.splitOn ',').mapM fieldOf
    let span := if name.isEmpty then none else some (String.ofList name)
    match rest with
    | _ :: ']' :: rest => afterSpan { r with span, fields } rest
    | _ => throw .directive
  | (_, []) => throw .directive

/-- A text without the blanks around it. -/
def trimmed (cs : List Char) : List Char :=
  ((cs.dropWhile isBlank).reverse.dropWhile isBlank).reverse

/-- A character that a target or a level can start with. -/
def isFirst (c : Char) : Bool :=
  c == '-' || c == ':' || c == '_' || isAlphabetic c || isNumeric c

/-- A rule as it is written: a level, a target, or a target with a level; a
span may stand between the two. Blanks around a rule do not count where its
parts are told apart, but they stay in the parts. -/
def parse (text : String) : Except LogFault LogRule := do
  let cs := text.toList
  let all : LogRule := { least := some .trace }
  match trimmed cs with
  | [] => throw .directive
  | '[' :: rest => spanOf all rest
  | c :: rest =>
    unless isFirst c do throw .directive
    match (c :: rest).span fun c => c != '=' && c != '[' with
    | (name, '=' :: _) =>
      let target := String.ofList (cs.take name.length)
      return { least := ← levelOf (cs.drop (name.length + 1)), target := some target }
    | (name, _ :: rest) => spanOf { all with target := some (String.ofList name) } rest
    | (_, []) =>
      match level? text with
      | some l => return { least := l }
      | none => return { all with target := some text }

/-- A rule can be about an event: it asks for no span and for no value. -/
def isStatic (r : LogRule) : Bool := r.span.isNone && r.fields.all (·.2.isNone)

/-- A rule is about an event. -/
def isAbout (r : LogRule) (e : Event) : Bool :=
  r.target.all (fun t => t.toList.isPrefixOf e.target.toList)
    && r.fields.all fun (name, _) => name == "message" || e.fields.any (·.1 == name)

/-- How specific a rule is: whether it has a target, its length, and the
number of fields. -/
def weight (r : LogRule) : Nat × Nat :=
  ((r.target.map (·.utf8ByteSize + 1)).getD 0, r.fields.length)

/-- A rule is at least as specific as another. -/
def atLeast (r s : LogRule) : Bool :=
  s.weight.1 < r.weight.1 || (s.weight.1 == r.weight.1 && s.weight.2 ≤ r.weight.2)

/-- A rule lets an event pass. -/
def passes (r : LogRule) (e : Event) : Bool := r.least.any fun l => l.rank ≤ e.level.rank

end LogRule

/-- Which events are logged. -/
structure LogFilter where
  rules : List LogRule
deriving Inhabited

namespace LogFilter

/-- All events from a level on. -/
def ofLevel (l : Level) : LogFilter := ⟨[{ least := some l }]⟩

/-- Rules as they are written, between commas. With none, errors pass. -/
def parse (text : String) : Except LogFault LogFilter := do
  let rules ← ((text.splitOn ",").filter (· != "")).mapM LogRule.parse
  return if rules.isEmpty then .ofLevel .error else ⟨rules⟩

/-- The most specific of some rules, of several the last. -/
def mostSpecific? (rules : List LogRule) : Option LogRule :=
  rules.foldl (fun best r => match best with
    | none => some r
    | some b => if r.atLeast b then some r else some b) none

/-- An event is logged. -/
def allows (f : LogFilter) (e : Event) : Bool :=
  match mostSpecific? (f.rules.filter fun r => r.isStatic && r.isAbout e) with
  | some r => r.passes e
  | none => false

end LogFilter

end ConsoleStrip
