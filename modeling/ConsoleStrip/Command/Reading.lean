/-
Reading the arguments of a command.

* `UsageFault`: what is wrong with arguments;
* `Refusal`: a fault with the usage line that goes with it;
* `CommandSpec.read`: the options and arguments that were given, or the
  command that follows with the arguments that are left for it.

A value is checked when the next argument is read, so that an option that is
not known is noticed before a bad value in front of it.
-/
import ConsoleStrip.Command.Similarity
import ConsoleStrip.Command.Spec
import ConsoleStrip.PathFilter

namespace ConsoleStrip

/-- What is wrong with arguments. -/
inductive UsageFault where
  /-- There is no such argument; one with a similar name may be meant, or one
  of a command that follows, or a value. -/
  | unknown (arg : String) (similar : Option String) (ofCommand : Option String) (asValue : Bool)
  | unknownCommand (name : String) (similar : List String)
  /-- A command stands after the sign that ends the options. -/
  | afterDashes (command : String)
  | missing (args : List String)
  | noValue (arg : String)
  | badValue (value arg reason : String)
  | extraValue (value arg : String)
  | repeated (arg : String)
deriving Repr, DecidableEq

namespace UsageFault

/-- How a fault is said. -/
def message : UsageFault → String
  | unknown arg .. | afterDashes arg => "unexpected argument '" ++ arg ++ "' found"
  | unknownCommand name _ => "unrecognized subcommand '" ++ name ++ "'"
  | missing args =>
    "the following required arguments were not provided:"
      ++ String.join (args.map fun a => "\n  " ++ a)
  | noValue arg => "a value is required for '" ++ arg ++ "' but none was supplied"
  | badValue value arg reason => "invalid value '" ++ value ++ "' for '" ++ arg ++ "': " ++ reason
  | extraValue value arg =>
    "unexpected value '" ++ value ++ "' for '" ++ arg ++ "' found; no more were expected"
  | repeated arg => "the argument '" ++ arg ++ "' cannot be used multiple times"

/-- What may be meant. -/
def tips : UsageFault → List String
  | unknown arg similar ofCommand asValue =>
    (match similar, ofCommand with
      | some s, none => ["a similar argument exists: '" ++ s ++ "'"]
      | some s, some c => ["'" ++ c ++ " " ++ s ++ "' exists"]
      | none, _ => [])
    ++ if asValue then ["to pass '" ++ arg ++ "' as a value, use '-- " ++ arg ++ "'"] else []
  | unknownCommand _ [] => []
  | unknownCommand _ [s] => ["a similar subcommand exists: '" ++ s ++ "'"]
  | unknownCommand _ similar =>
    ["some similar subcommands exist: " ++ ", ".intercalate (similar.map fun s => "'" ++ s ++ "'")]
  | afterDashes command =>
    ["subcommand '" ++ command ++ "' exists; to use it, remove the '--' before it"]
  | _ => []

end UsageFault

/-- A fault, the usage line that goes with it, and whether help is offered. -/
structure Refusal where
  fault : UsageFault
  usage : Option String := none
  offersHelp : Bool := true
deriving Repr, DecidableEq

/-- What is said of arguments that are refused. -/
def Refusal.text (r : Refusal) : String :=
  let tips := r.fault.tips
  "error: " ++ r.fault.message
    ++ (if tips.isEmpty then "" else "\n" ++ String.join (tips.map fun t => "\n  tip: " ++ t))
    ++ (match r.usage with
      | some u => "\n\n" ++ u
      | none => "")
    ++ (if r.offersHelp then "\n\nFor more information, try '--help'.\n" else "\n")

/-- Why there are no arguments to act on: something was asked for that is
shown, or the arguments were refused. -/
inductive Reply where
  | shown (text : String)
  | refused (r : Refusal)
deriving Repr, DecidableEq

/-- An option or an argument without a name, which takes a value. -/
structure Slot where
  id : String
  shown : String
  kind : ValueKind
  isMany : Bool
deriving Repr, DecidableEq, Inhabited

/-- What was given: each with its values, in the order in which they were first
given. -/
abbrev Given := List (String × List String)

namespace Given

/-- Adds a value. -/
def add (id : String) (values : List String) : Given → Given
  | [] => [(id, values)]
  | (k, vs) :: rest => if k == id then (k, vs ++ values) :: rest else (k, vs) :: add id values rest

/-- Something was given. -/
def has (g : Given) (id : String) : Bool := g.any (·.1 == id)

/-- Takes something out. -/
def without (g : Given) (id : String) : Given := g.filter (·.1 != id)

/-- The values of something. -/
def values (g : Given) (id : String) : List String := (g.lookup id).getD []

/-- What was given. -/
def ids (g : Given) : List String := g.map (·.1)

end Given

/-- The arguments that have been read. -/
structure Reading where
  given : Given := []
  /-- What takes a value, with the value if it has been read. -/
  pending : Option (Slot × Option String) := none
  /-- The number of arguments without a name. -/
  operands : Nat := 0
deriving Inhabited

namespace Reading

/-- What is wrong with a value. -/
def valueFault? (slot : Slot) (value : String) : Option Refusal :=
  match slot.kind with
  | .text => none
  | .path => if value.isEmpty then some { fault := .noValue slot.shown } else none
  | .filter =>
    match PathFilter.ofArgument value with
    | .ok _ => none
    | .error reason => some { fault := .badValue value slot.shown ("invalid regex: " ++ reason) }

/-- Keeps a value. -/
def store (c : CommandSpec) (r : Reading) (slot : Slot) (value : String) :
    Reading × Option Refusal :=
  if !slot.isMany && r.given.has slot.id then
    ({ r with given := r.given.without slot.id },
      some { fault := .repeated slot.shown, usage := some (c.usage []) })
  else ({ r with given := r.given.add slot.id [value] }, valueFault? slot value)

/-- Keeps the value that was read last. -/
def settle (c : CommandSpec) (r : Reading) : Reading × Option Refusal :=
  match r.pending with
  | none => (r, none)
  | some (slot, none) => ({ r with pending := none }, some { fault := .noValue slot.shown })
  | some (slot, some value) => { r with pending := none }.store c slot value

/-- The value that was read last is kept, or refused. -/
def settled (c : CommandSpec) (r : Reading) : Except Reply Reading :=
  match r.settle c with
  | (r, none) => .ok r
  | (_, some refusal) => .error (.refused refusal)

/-- A value comes next. -/
def awaitsValue (r : Reading) : Bool := r.pending.any (·.2.isNone)

end Reading

/-- What arguments say: what was given, or a command and the arguments for it. -/
inductive Said where
  | given (g : Given)
  | command (name : String) (args : List String)

namespace CommandSpec

/-- The slot of an option. -/
def slotOf (o : Opt) : Slot := ⟨o.long, o.shown, o.kind, o.isMany⟩

/-- The slot of an argument without a name. -/
def operandSlot (o : Operand) : Slot := ⟨o.id, o.shown, o.kind, o.isMany⟩

/-- What the program says of its version. -/
def versionText (c : CommandSpec) (version : String) : String := c.name ++ " " ++ version ++ "\n"

/-- An option without a value was given. -/
def flag (c : CommandSpec) (version : String) (o : Opt) (r : Reading) : Except Reply Reading := do
  let r ← r.settled c
  match o.action with
  | .showHelp => throw (.shown c.help)
  | .showVersion => throw (.shown (c.versionText version))
  | .set =>
    if r.given.has o.long then
      throw (.refused { fault := .repeated o.shown, usage := some (c.usage []) })
    return { r with given := r.given.add o.long [] }

/-- Letters after a hyphen. All options with a letter are without values. -/
def letters (c : CommandSpec) (version : String) : List Char → Reading → Except Reply Reading
  | [], r => .ok r
  | l :: rest, r =>
    match c.shortOption? l with
    | some o => do c.letters version rest (← c.flag version o r)
    | none =>
      .error (.refused
        { fault := .unknown (String.ofList ['-', l]) none none (!c.operands.isEmpty)
          usage := some (c.usage []) })

/-- The commands whose options can be meant before their names. -/
abbrev Inner := List CommandSpec

/-- The last word of the name of a command. -/
def lastWord (c : CommandSpec) : String := String.ofList ((c.name.toList.splitOn ' ').getLastD [])

/-- An option of a command that follows which is similar to a word; of several
that of the nearest command. -/
def similarInside? (inner : Inner) (long : String) (rest : List String) :
    Option (String × String) :=
  let found := inner.filterMap fun c =>
    match (Similarity.candidates long (c.options.map (·.long))).getLast?,
        rest.findIdx? (· == c.lastWord) with
    | some s, some i => some (i, s, c.lastWord)
    | _, _ => none
  (found.foldl (fun (best : Option (Nat × String × String)) f =>
    match best with
    | none => some f
    | some b => if f.1 < b.1 then some f else some b) none).map (·.2)

/-- An option that is not known. -/
def unknownOption (c : CommandSpec) (inner : Inner) (long : String) (rest : List String)
    (r : Reading) : Reply :=
  let given := (r.settle c).1.given
  let arg := "--" ++ long
  match (Similarity.candidates long (c.options.map (·.long))).getLast? with
  | some s =>
    .refused
      { fault := .unknown arg (some ("--" ++ s)) none false
        usage := some (c.usage (given.ids ++ [s])) }
  | none =>
    let other := similarInside? inner long rest
    .refused
      { fault := .unknown arg (other.map ("--" ++ ·.1)) (other.map (·.2))
          (other.isNone && !c.operands.isEmpty)
        usage := some (c.usage given.ids) }

/-- An option by its name, with a value, if one follows an equals sign. -/
def named (c : CommandSpec) (version : String) (inner : Inner) (long : String)
    (value : Option String) (rest : List String) (r : Reading) : Except Reply Reading := do
  match c.option? long with
  | none => throw (c.unknownOption inner long rest r)
  | some o =>
    match o.value, value with
    | none, none => c.flag version o r
    | none, some v =>
      throw (.refused { fault := .extraValue v o.shown, usage := some (c.usage r.given.ids) })
    | some _, none =>
      return { ← r.settled c with pending := some (slotOf o, none) }
    | some _, some v =>
      Reading.settled c { ← r.settled c with pending := some (slotOf o, some v) }

/-- An argument that nothing takes. -/
def unexpected (c : CommandSpec) (trailing : Bool) (arg : String) : Reply :=
  let usage := some (c.usage [])
  let similar := Similarity.candidates arg (c.commands.map (·.1))
  if trailing && c.hasCommand arg then .refused { fault := .afterDashes arg, usage }
  else if !c.commands.isEmpty then .refused { fault := .unknownCommand arg similar, usage }
  else .refused { fault := .unknown arg none none false, usage }

/-- An argument without a name. -/
def operand (c : CommandSpec) (trailing : Bool) (arg : String) (r : Reading) :
    Except Reply Reading := do
  match c.operands[r.operands]? with
  | none => throw (c.unexpected trailing arg)
  | some o =>
    let r ← r.settled c
    return { r with pending := some (operandSlot o, some arg), operands := r.operands + 1 }

/-- What is required and was not given. -/
def missing (c : CommandSpec) (g : Given) : List String :=
  let required := c.options.filterMap fun o => if g.has o.long then o.requires else none
  (required ++ (c.operands.filter (·.isRequired)).map (·.id)).filter fun id => !g.has id

/-- The end of the arguments. -/
def finish (c : CommandSpec) (r : Reading) : Except Reply Said := do
  let g := (← r.settled c).given
  let missing := c.missing g
  if missing.isEmpty then return .given g
  throw (.refused
    { fault := .missing (missing.filterMap c.shownOf)
      usage := some (c.usage (missing ++ g.ids)) })

/-- An argument that is the name of an option, perhaps with a value. -/
def long? (arg : String) : Option (String × Option String) :=
  match arg.toList with
  | '-' :: '-' :: cs =>
    match cs.span (· != '=') with
    | (name, _ :: value) => some (String.ofList name, some (String.ofList value))
    | (name, []) => some (String.ofList name, none)
  | _ => none

/-- An argument that is letters after a hyphen. -/
def letters? (arg : String) : Option (List Char) :=
  match arg.toList with
  | '-' :: c :: cs => if c == '-' then none else some (c :: cs)
  | _ => none

/-- Reads the arguments that are left. -/
def readFrom (c : CommandSpec) (version : String) (inner : Inner) :
    (trailing : Bool) → Reading → List String → Except Reply Said
  | _, r, [] => c.finish r
  | trailing, r, arg :: rest => do
    if trailing then return ← c.readFrom version inner true (← c.operand true arg r) rest
    if !r.awaitsValue && c.hasCommand arg then return .command arg rest
    if arg == "--" then return ← c.readFrom version inner true r rest
    match long? arg, letters? arg with
    | some (name, value), _ =>
      c.readFrom version inner false (← c.named version inner name value rest r) rest
    | none, some ls => c.readFrom version inner false (← c.letters version ls r) rest
    | none, none =>
      match r.pending with
      | some (slot, none) =>
        c.readFrom version inner false { r with pending := some (slot, some arg) } rest
      | _ => c.readFrom version inner false (← c.operand false arg r) rest

/-- Reads arguments. -/
def read (c : CommandSpec) (version : String) (inner : Inner) (args : List String) :
    Except Reply Said :=
  c.readFrom version inner false {} args

end CommandSpec

end ConsoleStrip
