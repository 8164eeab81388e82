/-
The command line of the program.

* `Arguments`: what the program is asked to do;
* `Arguments.specs`: the commands of the program;
* `Arguments.parse`: what arguments ask for, or the reply to them.
-/
import ConsoleStrip.Command.Reading
import ConsoleStrip.Config

namespace ConsoleStrip

/-- What is asked of every command that transforms files. What is given
replaces what a configuration says. -/
structure TransformArgs where
  includes : List String := []
  keepComments : List String := []
  external : List PathFilter := []
  verbose : Bool := false

/-- What is asked of the command that rewrites a project. -/
structure StripArgs where
  transform : TransformArgs := {}
  sourceRoot : Option String := none
  apply : Bool := false
  sourceMap : Bool := false

/-- What is asked of the command that prints a file. -/
structure PrintArgs where
  file : String
  transform : TransformArgs := {}

/-- What the program is asked to do. -/
inductive Arguments where
  | nothing
  | strip (args : StripArgs)
  | print (args : PrintArgs)
  | init

/-- The options out of a configuration and what was given. -/
def TransformArgs.options (a : TransformArgs) (c : Config) : Options where
  includes := if a.includes.isEmpty then c.includes else a.includes
  external := if a.external.isEmpty then c.external else a.external
  keepComments := if a.keepComments.isEmpty then c.keepComments else a.keepComments

namespace Arguments

/-- More about what happens is to be said. -/
def verbose : Arguments → Bool
  | strip a => a.transform.verbose
  | print a => a.transform.verbose
  | nothing | init => false

/-! ### The commands -/

/-- The name of the program. -/
def programName : String := "keep-console"

/-- The version of the program. -/
def version : String := "0.1.0"

/-- The option that shows help. -/
def helpOption : Opt :=
  { long := "help", short := some 'h', help := "Print help", action := .showHelp }

/-- The option that shows the version. -/
def versionOption : Opt :=
  { long := "version", short := some 'V', help := "Print version", action := .showVersion }

/-- The options of every command that transforms files. -/
def transformOptions : List Opt :=
  [{ long := "includes", value := some "NAME", isMany := true,
     help := "Console members to strip (overrides config; default: all) Can be specified "
       ++ "multiple times: --includes log --includes debug" },
   { long := "keep-comment", value := some "MARKER", isMany := true,
     help := "Comment text that keeps a call (overrides config; default: keep-console)" },
   { long := "external", value := some "FILTER", kind := .filter, isMany := true,
     help := "Only transform paths matching this filter (overrides config) A value starting "
       ++ "with \x60re:\x60 is a regular expression, anything else a substring" },
   { long := "verbose", short := some 'v', help := "Enable verbose output" }]

/-- The command that rewrites a project. -/
def stripSpec : CommandSpec where
  name := programName ++ " strip"
  about := "Remove console calls without a keep comment from the project's sources"
  options := transformOptions ++
    [{ long := "source-root", value := some "SOURCE_ROOT", kind := .path,
       help := "Source code root directory (overrides config file)" },
     { long := "apply", help := "Actually rewrite files (default is dry-run)" },
     { long := "source-map", requires := some "apply",
       help := "Write a \x60<file>.map\x60 source map next to each rewritten file" },
     helpOption]

/-- The command that prints a file. -/
def printSpec : CommandSpec where
  name := programName ++ " print"
  about := "Print the transformed code of a single file to stdout"
  options := transformOptions ++ [helpOption]
  operands := [{ id := "file", name := "FILE", help := "File to transform" }]

/-- The command that makes a configuration file. -/
def initSpec : CommandSpec where
  name := programName ++ " init"
  about := "Initialize a new .keepconsolerc.json configuration file"
  options := [helpOption]

/-- The command that shows help. -/
def helpSpec : CommandSpec where
  name := programName ++ " help"
  about := "Print this message or the help of the given subcommand(s)"
  operands :=
    [{ id := "subcommand", name := "COMMAND", kind := .text, isRequired := false, isMany := true,
       help := "Print help for the subcommand(s)" }]

/-- The commands of the program. -/
def specs : List CommandSpec := [stripSpec, printSpec, initSpec, helpSpec]

/-- The program itself. -/
def programSpec : CommandSpec where
  name := programName
  about := "Strip console calls from JS/TS sources unless a comment marks them to keep"
  options := [helpOption, versionOption]
  commands := specs.map fun c => (c.lastWord, c.about)

/-! ### Reading -/

/-- What is asked of every command that transforms files. -/
def transformArgs (g : Given) : TransformArgs where
  includes := g.values "includes"
  keepComments := g.values "keep-comment"
  external := (g.values "external").filterMap fun v => (PathFilter.ofArgument v).toOption
  verbose := g.has "verbose"

/-- What the command with a name is asked to do. -/
def ofGiven (command : String) (g : Given) : Arguments :=
  match command with
  | "strip" =>
    .strip
      { transform := transformArgs g
        sourceRoot := (g.values "source-root").head?
        apply := g.has "apply"
        sourceMap := g.has "source-map" }
  | "print" =>
    .print { file := (g.values "file").headD "", transform := transformArgs g }
  | _ => .init

/-- The help on what some words name. -/
def helpOn (c : CommandSpec) : List String → Reply
  | [] => .shown c.help
  | word :: rest =>
    match (if c.hasCommand word then specs.find? (·.lastWord == word) else none), rest with
    | some d, [] => .shown d.help
    | some d, next :: _ => notFound d next
    | none, _ => notFound c word
where
  /-- There is no command with a name in another. -/
  notFound (c : CommandSpec) (word : String) : Reply :=
    .refused
      { fault := .unknownCommand word []
        usage := some (c.usage [])
        offersHelp := c.options.any (·.action == .showHelp) }

/-- What arguments ask for. -/
def parse (args : List String) : Except Reply Arguments := do
  match ← programSpec.read version specs args with
  | .given _ => return .nothing
  | .command "help" rest => throw (helpOn programSpec rest)
  | .command name rest =>
    match specs.find? (·.lastWord == name) with
    | none => return .nothing
    | some c =>
      match ← c.read version [] rest with
      | .given g => return ofGiven name g
      | .command .. => return .nothing

end Arguments

end ConsoleStrip
