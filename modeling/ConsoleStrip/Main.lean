/-
The program.

The files that a command can look at are loaded, the command runs on them, and
what it says and writes is passed on.
-/
import ConsoleStrip.Command.Run

namespace ConsoleStrip

namespace Program

/-- What stands at a path of the machine. The content of a file is read only
if it is wanted. -/
def loadEntry (path : String) (wanted : Bool) : IO (Option Entry) := do
  let base ← IO.currentDir
  try
    let info ← (base / path).metadata
    match info.type with
    | .dir => return some .folder
    | _ =>
      let bytes ← if wanted then IO.FS.readBinFile path else pure .empty
      return some (.file (.ofBytes bytes))
  catch _ => return none

/-- Loads what stands at a place. -/
def load (fs : FileSystem) (p : Place) (wanted : Bool) : IO FileSystem := do
  match ← loadEntry p.path wanted with
  | some e => return if p.isEmpty then fs else fs.put p e
  | none => return fs

/-- Loads what stands at the places along a path. -/
def loadAlong (fs : FileSystem) (cwd : Place) (path : String) : IO FileSystem := do
  let start : Place := if Path.isAbsolute path then [] else cwd
  let mut fs := fs
  let mut p := start
  for name in Path.pieces path do
    if name == ".." then p := p.dropLast
    else if name != "" && name != "." then p := p ++ [name]
    fs ← load fs p true
  return fs

/-- Loads what stands under a folder. Only source files are read. -/
partial def loadTree (fs : FileSystem) (p : Place) : IO FileSystem := do
  let base ← IO.currentDir
  let inside ← try (base / p.path).readDir catch _ => pure #[]
  let mut fs := fs
  for e in inside do
    let q := p ++ [e.fileName]
    fs ← load fs q (FileKind.ofPath? e.fileName).isSome
    if let some .folder := fs.entry? q then fs ← loadTree fs q
  return fs

/-- Loads the folders around a folder, and what says where a configuration is. -/
def loadConfigs (fs : FileSystem) (folder : Place) : IO FileSystem := do
  let mut fs := fs
  for n in List.range (folder.length + 1) do
    let p := folder.take n
    fs ← load fs p false
    fs ← load fs (p ++ [Config.fileName]) true
    fs ← load fs (p ++ [Config.repositoryMark]) false
  return fs

/-- Loads the files that a command can look at. -/
def loadFor (cwd : Place) (args : List String) : IO FileSystem := do
  let fs ← loadConfigs {} cwd
  match Arguments.parse args with
  | .ok (.print a) => loadAlong fs cwd a.file
  | .ok (.strip a) =>
    match (Config.load fs cwd).1 with
    | .error _ => return fs
    | .ok loaded =>
      let root := a.sourceRoot.getD loaded.config.sourceRoot
      let fs ← loadAlong fs cwd root
      match fs.locate cwd root with
      | .ok p => loadTree fs p
      | .error _ => return fs
  | _ => return fs

/-- What the system says when it fails to write a file. -/
def faultOf : IO.Error → FileFault
  | .alreadyExists _ code text | .invalidArgument _ code text | .permissionDenied _ code text
  | .resourceExhausted _ code text | .inappropriateType _ code text | .noSuchThing _ code text
  | .interrupted _ code text | .noFileOrDirectory _ code text
  | .otherError code text | .resourceBusy code text | .resourceVanished code text
  | .unsupportedOperation code text | .hardwareFault code text
  | .unsatisfiedConstraints code text | .illegalOperation code text
  | .protocolError code text | .timeExpired code text => .system text code.toNat
  | .unexpectedEof => .system "Unexpected end of file" 0
  | .userError text => .system text 0

/-- Writes the files that a run changes, in the order in which it writes them.
If the system fails to write one, the run is one that stops there. -/
def perform (fs : FileSystem) (run : FileSystem → Outcome) : IO Outcome := do
  let o := run fs
  -- what was put last comes first
  for (p, text) in (fs.newTexts o.files).reverse do
    try
      IO.FS.writeFile p.path text
    catch e =>
      return run { fs with stops := [(p, ⟨faultOf e, none⟩)] }
  return o

end Program

end ConsoleStrip

/-- Runs the program with its arguments. -/
def main (args : List String) : IO UInt32 := do
  let base ← IO.currentDir
  let cwd := (ConsoleStrip.Path.pieces base.toString).filter (· != "")
  let fs ← ConsoleStrip.Program.loadFor cwd args
  let log ← IO.getEnv ConsoleStrip.Program.logVariable
  let o ← ConsoleStrip.Program.perform fs fun fs => ConsoleStrip.Program.run fs cwd log args
  IO.eprint o.err
  IO.print o.out
  return o.exit.toUInt32
