/-
What a command takes.

* `Opt`, `Operand`: an option, and an argument without a name;
* `CommandSpec`: a command;
* `CommandSpec.usage`: the line that says how it is called;
* `CommandSpec.help`: what it says of itself.
-/

namespace ConsoleStrip

/-- What a value of an argument has to be. -/
inductive ValueKind where
  | text
  /-- A path, which is not empty. -/
  | path
  /-- A filter on paths. -/
  | filter
deriving Repr, DecidableEq, Inhabited

/-- What an option does. -/
inductive OptAction where
  | set
  | showHelp
  | showVersion
deriving Repr, DecidableEq, Inhabited

/-- An option. -/
structure Opt where
  long : String
  short : Option Char := none
  /-- The name of its value, if it takes one. -/
  value : Option String := none
  kind : ValueKind := .text
  /-- It may be given more than once. -/
  isMany : Bool := false
  help : String
  /-- Another option that has to be given with it. -/
  requires : Option String := none
  action : OptAction := .set
deriving Repr, DecidableEq, Inhabited

/-- An option as it is shown. -/
def Opt.shown (o : Opt) : String :=
  "--" ++ o.long ++ (match o.value with
    | some v => " <" ++ v ++ ">"
    | none => "")

/-- An argument without a name. -/
structure Operand where
  id : String
  name : String
  kind : ValueKind := .path
  isRequired : Bool := true
  isMany : Bool := false
  help : String
deriving Repr, DecidableEq, Inhabited

/-- An argument without a name as it is shown. -/
def Operand.shown (o : Operand) : String :=
  (if o.isRequired then "<" ++ o.name ++ ">" else "[" ++ o.name ++ "]")
    ++ (if o.isMany then "..." else "")

/-- A command. -/
structure CommandSpec where
  /-- The words that call it. -/
  name : String
  about : String
  options : List Opt := []
  operands : List Operand := []
  /-- The commands inside it, with what they are about. -/
  commands : List (String × String) := []
deriving Repr, DecidableEq, Inhabited

namespace CommandSpec

/-- The option with a name. -/
def option? (c : CommandSpec) (long : String) : Option Opt := c.options.find? (·.long == long)

/-- The option with a letter. -/
def shortOption? (c : CommandSpec) (short : Char) : Option Opt :=
  c.options.find? (·.short == some short)

/-- The command has a command with a name inside it. -/
def hasCommand (c : CommandSpec) (name : String) : Bool := c.commands.any (·.1 == name)

/-- An option or an argument without a name as it is shown. -/
def shownOf (c : CommandSpec) (id : String) : Option String :=
  (c.option? id).map Opt.shown <|> (c.operands.find? (·.id == id)).map Operand.shown

/-! ### Usage -/

/-- The options and arguments that are named in a usage line: options first. -/
def usageParts (c : CommandSpec) (used : List String) : List String :=
  (used.eraseDups.filterMap c.option?).map Opt.shown ++ c.operands.map Operand.shown

/-- The line that says how a command is called: in general, or with the
arguments that were used. -/
def usage (c : CommandSpec) (used : List String) : String :=
  let parts :=
    if used.isEmpty then
      (if c.options.any (·.action == .set) then ["[OPTIONS]"] else [])
        ++ c.operands.map Operand.shown
        ++ (if c.commands.isEmpty then [] else ["[COMMAND]"])
    else c.usageParts used
  "Usage: " ++ " ".intercalate (c.name :: parts)

/-! ### Help -/

/-- The width of a line. -/
def lineWidth : Nat := 100

/-- The space that stands before the name of an option without a letter. -/
def shortWidth : Nat := 4

/-- Some blanks. -/
def blanks (n : Nat) : String := String.ofList (List.replicate n ' ')

/-- A row of a help text: what it is about, the width of that, and what is
said of it. -/
structure Row where
  label : String
  text : String

/-- The texts of some rows do not fit beside their labels. -/
def wraps (rows : List Row) : Bool :=
  let longest := rows.foldl (fun n r => max n r.label.length) 2
  let taken := longest + 12
  taken ≤ lineWidth && 40 < taken && rows.any fun r => lineWidth - taken < r.text.length

/-- Rows, with the texts in a column, or each on the line after its label. -/
def rows (rs : List Row) : String :=
  let longest := rs.foldl (fun n r => max n r.label.length) 2
  let below := wraps rs
  "\n".intercalate (rs.map fun r =>
    "  " ++ r.label ++ (if below then "\n" ++ blanks 10 else blanks (longest - r.label.length + 2))
      ++ r.text)

/-- The row of an option. -/
def optRow (o : Opt) : Row :=
  ⟨(match o.short with
    | some c => String.ofList ['-', c, ',', ' ']
    | none => blanks shortWidth) ++ o.shown, o.help⟩

/-- A section of a help text, if it has rows. -/
def sectionOf (title : String) (rs : List Row) : List String :=
  if rs.isEmpty then [] else [title ++ ":\n" ++ rows rs]

/-- What a command says of itself. -/
def help (c : CommandSpec) : String :=
  "\n\n".intercalate ([c.about, c.usage []]
    ++ sectionOf "Commands" (c.commands.map fun (name, about) => ⟨name, about⟩)
    ++ sectionOf "Arguments" (c.operands.map fun o => ⟨o.shown, o.help⟩)
    ++ sectionOf "Options" (c.options.map optRow)) ++ "\n"

end CommandSpec

end ConsoleStrip
