/-
The source files of a project.

* `Ignores`: what is left out: whole folders by their paths, and paths that
  match a pattern;
* `FileSystem.walk`: all that stands under a folder, without the folders that
  are left out;
* `FileSystem.scan`: the source files under a folder, in the order of their
  paths.
-/
import ConsoleStrip.Event
import ConsoleStrip.FileKind
import ConsoleStrip.Files.System
import ConsoleStrip.Glob

namespace ConsoleStrip

/-- What is left out of a project. -/
structure Ignores where
  /-- Paths that are left out with all that lies under them. -/
  paths : List String := []
  patterns : List Glob := []
  /-- Patterns that cannot be read, and why. -/
  faults : List (String × Glob.Fault) := []
deriving Inhabited

namespace Ignores

/-- A text is a pattern if it has a wildcard in it. -/
def isPattern (p : String) : Bool := p.toList.contains '*' || p.toList.contains '?'

/-- What some texts leave out of the folder `root`. -/
def ofList (root : String) : List String → Ignores
  | [] => {}
  | p :: rest =>
    let is := ofList root rest
    if !isPattern p then { is with paths := Path.join root p :: is.paths }
    else
      match Glob.parse p with
      | .ok g => { is with patterns := g :: is.patterns }
      | .error f => { is with faults := (p, f) :: is.faults }

/-- A path is left out with all that lies under it. -/
def prunes (is : Ignores) (path : String) : Bool := is.paths.any (Path.isUnder path ·)

/-- A path is left out by itself. -/
def skips (is : Ignores) (path : String) : Bool := is.patterns.any (·.accepts path)

end Ignores

/-- Something that was met on the way through a folder. -/
inductive Visit where
  | folder (path : String)
  | file (path : String)
  /-- A folder whose entries cannot be listed. -/
  | unreadable (path : String) (fault : FileFault)
deriving Repr, DecidableEq

namespace FileSystem

/-- All that stands at a place with a given path and under it. `depth` bounds
the number of folders in one another. -/
def walk (fs : FileSystem) (is : Ignores) : (depth : Nat) → (path : String) → Place → List Visit
  | 0, _, _ => []
  | depth + 1, path, p =>
    if is.prunes path then []
    else
      match fs.entry? p with
      | none => []
      | some (.file _) => [.file path]
      | some .folder =>
        if maxPath ≤ path.utf8ByteSize then [.folder path, .unreadable path .nameTooLong]
        else .folder path :: (fs.names p).flatMap fun n =>
          fs.walk is depth (Path.join path n) (p ++ [n])

/-- A depth that no folder reaches. -/
def depth (fs : FileSystem) : Nat := fs.entries.foldl (fun n (p, _) => max n p.length) 0 + 1

/-- The source files of a project, and what happened on the way. -/
structure Scan where
  files : List String
  /-- The number of folders that could not be listed. -/
  skipped : Nat
  events : List Event

/-- The path of a source file that is not left out. -/
def sourceFile? (is : Ignores) : Visit → Option String
  | .file path =>
    if !is.skips path && (FileKind.ofPath? path).isSome then some path else none
  | _ => none

/-- The event of a folder that could not be listed. -/
def unreadableEvent? : Visit → Option Event
  | .unreadable path fault =>
    some (.unreadable ("IO error for operation on " ++ path ++ ": " ++ fault.message))
  | _ => none

/-- The source files under a folder. -/
def scan (fs : FileSystem) (cwd : Place) (root : String) (ignores : List String) : Scan :=
  let is := Ignores.ofList root ignores
  let visits := match fs.locate cwd root with
    | .ok p => fs.walk is fs.depth root p
    | .error _ => []
  let unreadable := visits.filterMap unreadableEvent?
  { files := (visits.filterMap (sourceFile? is)).mergeSort Path.le
    skipped := unreadable.length
    events := is.faults.map (fun (p, f) => Event.badIgnore p f.message) ++ unreadable }

end FileSystem

end ConsoleStrip
