/-
What the commands do.

* `processFile`: what happens to a file of a project;
* `Strip.run`, `Print.run`, `Init.run`: the commands;
* `Program.run`: the whole program, from its arguments to its exit code.

A command takes the files as they are and gives what is said, the exit code,
and the files as they are then.
-/
import ConsoleStrip.Command.Arguments
import ConsoleStrip.Command.Report
import ConsoleStrip.Config.Load
import ConsoleStrip.Files.Scan
import ConsoleStrip.Log.Filter
import ConsoleStrip.Transform

namespace ConsoleStrip

/-- How a run ended. -/
inductive ExitStatus where
  | success
  /-- A file could not be read, or the command refused to act. -/
  | failure
  /-- The command could not run. -/
  | error
deriving Repr, DecidableEq, Inhabited

/-- The exit code of a status. -/
def ExitStatus.code : ExitStatus → Nat
  | success => 0
  | failure => 1
  | error => 2

/-- What a command did. -/
structure CommandResult where
  status : ExitStatus
  out : String := ""
  err : String := ""
  events : List Event := []
  files : FileSystem

/-- A command that could not run. -/
def CommandResult.failed (message : String) (events : List Event) (files : FileSystem) :
    CommandResult :=
  { status := .error, err := "Error: " ++ message ++ "\n", events, files }

/-! ### Rewriting a project -/

/-- What is written of a file. -/
structure WriteMode where
  apply : Bool
  sourceMap : Bool
deriving Repr, DecidableEq

/-- The path of the source map of a file. -/
def mapPath (path : String) : String := path ++ ".map"

/-- The line that names the source map of a file. -/
def mapLine (path : String) : String :=
  "//# sourceMappingURL=" ++ Path.fileName (mapPath path) ++ "\n"

/-- Writes a file: the files then, and what is wrong, as a message. -/
def writeFile (fs : FileSystem) (cwd : Place) (path text : String) :
    FileSystem × Option String :=
  let w := fs.write cwd path text
  (w.files, w.fault?.map fun f => "Failed to write " ++ path ++ ": " ++ f.message)

/-- Writes a file that was transformed, and first its source map, if there is
to be one. If the second cannot be written, the first has been. -/
def writeTransformed (fs : FileSystem) (cwd : Place) (mode : WriteMode) (path : String)
    (t : Transformed) : FileSystem × Option String :=
  if !mode.apply then (fs, none)
  else
    match if mode.sourceMap then t.map? else none with
    | none => writeFile fs cwd path t.code
    | some map =>
      match writeFile fs cwd (mapPath path) map with
      | (fs, some m) => (fs, some m)
      | (fs, none) => writeFile fs cwd path (t.code ++ mapLine path)

/-- What happened to a file: the files then, the events, and the outcome; what
could not be written, as a message. -/
structure Processed where
  files : FileSystem
  events : List Event := []
  outcome : Except String FileOutcome

/-- What happens to a file of a project. -/
def processFile (o : Options) (mode : WriteMode) (cwd : Place) (fs : FileSystem) (path : String) :
    Processed :=
  if !o.handles path then { files := fs, outcome := .ok .excluded }
  else
    match fs.read cwd path with
    | .error f =>
      { files := fs
        outcome := .ok (.failed path ("Failed to read " ++ path ++ ": " ++ f.message)) }
    | .ok code =>
      match o.transform code path with
      | (.error f, events) => { files := fs, events, outcome := .ok (.failed path f.display) }
      | (.ok t, events) =>
        if t.summary.isUnchanged then
          { files := fs, events, outcome := .ok (.unchanged t.summary.retained) }
        else
          match writeTransformed fs cwd mode path t with
          | (files, none) => { files, events, outcome := .ok (.stripped path t.summary) }
          | (files, some m) => { files, events, outcome := .error m }

/-- What happened to some files. -/
structure ProcessedAll where
  files : FileSystem
  events : List Event := []
  outcomes : Except String (List FileOutcome)

/-- What happens to files, one after another. What cannot be written ends it. -/
def processFiles (o : Options) (mode : WriteMode) (cwd : Place) :
    FileSystem → List String → ProcessedAll
  | fs, [] => { files := fs, outcomes := .ok [] }
  | fs, path :: rest =>
    let p := processFile o mode cwd fs path
    match p.outcome with
    | .error m => { files := p.files, events := p.events, outcomes := .error m }
    | .ok outcome =>
      let ps := processFiles o mode cwd p.files rest
      { files := ps.files
        events := p.events ++ ps.events
        outcomes := ps.outcomes.map (outcome :: ·) }

namespace Strip

/-- The command that rewrites a project, given its configuration. -/
def runWith (fs : FileSystem) (cwd : Place) (args : StripArgs) (c : Config) : CommandResult :=
  let root := args.sourceRoot.getD c.sourceRoot
  if !fs.isFolder cwd root then
    .failed ("Source root is not a directory: " ++ root) [] fs
  else
    let scan := fs.scan cwd root c.ignores
    let ps := processFiles (args.transform.options c) ⟨args.apply, args.sourceMap⟩ cwd fs scan.files
    let events := scan.events ++ ps.events
    match ps.outcomes with
    | .error m => .failed m events ps.files
    | .ok outcomes =>
      let report : StripReport := ⟨outcomes, scan.skipped, args.apply⟩
      { status := if report.hasFailures then .failure else .success
        out := report.out args.transform.verbose
        err := report.err
        events
        files := ps.files }

/-- The command that rewrites a project. -/
def run (fs : FileSystem) (cwd : Place) (args : StripArgs) : CommandResult :=
  match Config.load fs cwd with
  | (.error m, events) => .failed m events fs
  | (.ok loaded, events) =>
    let r := runWith fs cwd args loaded.config
    { r with events := events ++ [.configResolved loaded.fromFile] ++ r.events }

end Strip

/-! ### Printing a file -/

namespace Print

/-- The command that prints a file, given its options. -/
def runWith (fs : FileSystem) (cwd : Place) (file : String) (o : Options) : CommandResult :=
  match fs.read cwd file with
  | .error f => .failed ("Failed to read " ++ file ++ ": " ++ f.message) [] fs
  | .ok code =>
    match o.transform code file with
    | (.ok t, events) => { status := .success, out := t.code, events, files := fs }
    | (.error f, events) =>
      { status := .failure, err := "error: " ++ f.display ++ "\n", events, files := fs }

/-- The command that prints a file. -/
def run (fs : FileSystem) (cwd : Place) (args : PrintArgs) : CommandResult :=
  match Config.load fs cwd with
  | (.error m, events) => .failed m events fs
  | (.ok loaded, events) =>
    let r := runWith fs cwd args.file (args.transform.options loaded.config)
    { r with events := events ++ r.events }

end Print

/-! ### Making a configuration file -/

namespace Init

/-- The command that makes a configuration file. -/
def run (fs : FileSystem) (cwd : Place) : CommandResult :=
  if (fs.at? cwd Config.fileName).isSome then
    { status := .failure
      err := StripReport.failureMark ++ " " ++ Config.fileName ++ " already exists\n"
      files := fs }
  else
    match writeFile fs cwd Config.fileName ({} : Config).text with
    | (files, some m) => .failed m [] files
    | (files, none) =>
      { status := .success
        out := StripReport.successMark ++ " Created " ++ Config.fileName ++ "\n"
        files }

end Init

/-! ### The program -/

/-- The value of a field as it is logged. -/
def FieldValue.shown : FieldValue → String
  | text s => quotedText s
  | plain s => s
  | number n => toString n
  | flag b => if b then "true" else "false"

/-- An event as it is logged, its level in a column of five. -/
def Event.line (e : Event) : String :=
  let name := e.level.name
  String.ofList (List.replicate (5 - name.length) ' ') ++ name ++ " " ++ e.message
    ++ String.join (e.fields.map fun (k, v) => " " ++ k ++ "=" ++ v.shown) ++ "\n"

namespace Program

/-- What is said, the exit code, and the files after a run of the program. -/
structure Outcome where
  exit : Nat
  out : String := ""
  err : String := ""
  files : FileSystem

/-- The name of the variable that says what is logged. -/
def logVariable : String := "KEEP_CONSOLE_LOG"

/-- Which events are logged. -/
def logFilter (log : Option String) (verbose : Bool) : Except String LogFilter :=
  match log with
  | none => .ok (.ofLevel (if verbose then .debug else .warn))
  | some text =>
    match LogFilter.parse text with
    | .ok f => .ok f
    | .error f =>
      .error ("Invalid " ++ logVariable ++ " filter: \"" ++ text ++ "\": " ++ f.message)

/-- What the arguments ask for. -/
def command (fs : FileSystem) (cwd : Place) : Arguments → CommandResult
  | .nothing => { status := .success, out := Arguments.programSpec.help, files := fs }
  | .strip args => Strip.run fs cwd args
  | .print args => Print.run fs cwd args
  | .init => Init.run fs cwd

/-- The whole program, in a folder, with the value of its variable and its
arguments. -/
def run (fs : FileSystem) (cwd : Place) (log : Option String) (args : List String) : Outcome :=
  match Arguments.parse args with
  | .error (.shown text) => { exit := 0, out := text, files := fs }
  | .error (.refused r) => { exit := ExitStatus.error.code, err := r.text, files := fs }
  | .ok a =>
    match logFilter log a.verbose with
    | .error m =>
      { exit := ExitStatus.error.code, err := "Error: " ++ m ++ "\n", files := fs }
    | .ok filter =>
      let r := command fs cwd a
      { exit := r.status.code
        out := r.out
        err := String.join ((r.events.filter filter.allows).map Event.line) ++ r.err
        files := r.files }

end Program

end ConsoleStrip
