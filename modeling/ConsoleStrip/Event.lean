/-
Events that are logged.

* `Event`: something that happened;
* `Event.level`, `Event.message`, `Event.fields`: how it is logged.
-/
import ConsoleStrip.Strip.Rewrite

namespace ConsoleStrip

/-- How much an event matters. -/
inductive Level where
  | trace
  | debug
  | info
  | warn
  | error
deriving Repr, DecidableEq, Inhabited

namespace Level

/-- The name of a level. -/
def name : Level → String
  | trace => "TRACE"
  | debug => "DEBUG"
  | info => "INFO"
  | warn => "WARN"
  | error => "ERROR"

/-- How much a level matters. -/
def rank : Level → Nat
  | trace => 0
  | debug => 1
  | info => 2
  | warn => 3
  | error => 4

end Level

/-- The value of a field of an event. -/
inductive FieldValue where
  /-- A text, which is quoted where it is shown. -/
  | text (s : String)
  /-- A text that is shown as it is. -/
  | plain (s : String)
  | number (n : Nat)
  | flag (b : Bool)
deriving Repr, DecidableEq, Inhabited

/-- Something that happened. -/
inductive Event where
  /-- A console call was decided about. -/
  | call (line : Nat) (member : Option String) (keep : Bool)
  | transformed (path : String) (summary : Summary)
  | unsupported (path : String)
  | excluded (path : String)
  | unknownMember (name : String)
  | configLoaded (path : String)
  | configResolved (fromFile : Bool)
  | badIgnore (pattern : String) (reason : String)
  | unreadable (reason : String)
deriving Repr, DecidableEq

namespace Event

/-- The level at which an event is logged. -/
def level : Event → Level
  | call .. | transformed .. | configLoaded _ | configResolved _ => .debug
  | unsupported _ | excluded _ => .trace
  | unknownMember _ | badIgnore .. | unreadable _ => .warn

/-- What is said of an event. -/
def message : Event → String
  | call .. => "console call"
  | transformed .. => "transformed"
  | unsupported _ => "unsupported extension, passing through"
  | excluded _ => "excluded by external filters, passing through"
  | unknownMember _ => "'includes' names an unknown console method"
  | configLoaded _ => "loaded config"
  | configResolved _ => "resolved configuration"
  | badIgnore .. => "invalid ignore pattern"
  | unreadable _ => "cannot access path"

/-- The fields of an event. A member that is computed has no name. -/
def fields : Event → List (String × FieldValue)
  | call line member keep =>
    [("line", .number line), ("method", .text (member.getD "<computed>")), ("keep", .flag keep)]
  | transformed path s =>
    [("id", .text path), ("removed", .number s.removed), ("replaced", .number s.replaced),
     ("retained", .number s.retained)]
  | unsupported path | excluded path => [("id", .text path)]
  | unknownMember name => [("name", .text name)]
  | configLoaded path => [("path", .plain path)]
  | configResolved fromFile => [("from_file", .flag fromFile)]
  | badIgnore pattern reason => [("pattern", .plain pattern), ("error", .plain reason)]
  | unreadable reason => [("error", .plain reason)]

end Event

end ConsoleStrip
