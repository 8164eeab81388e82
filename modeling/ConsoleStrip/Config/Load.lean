/-
The configuration of a project.

* `Config.find`: the configuration file nearest to a folder. Folders above one
  with a repository are not searched;
* `Config.load`: the configuration that holds in a folder.
-/
import ConsoleStrip.Config
import ConsoleStrip.Files.System
import ConsoleStrip.Text.Quoted

namespace ConsoleStrip

namespace Config

/-- The name of what marks the folder of a repository. -/
def repositoryMark : String := ".git"

/-- What a folder says about where the configuration file is: it is here, it is
nowhere, or, with no answer, it is to be looked for above. The search goes up
over places and not along a path that was given, so the bounds on the length of
a path (`FileSystem.maxPath`) have no part in it. -/
def foundIn? (fs : FileSystem) (folder : Place) : Option (Option Place) :=
  if (fs.entry? (folder ++ [fileName])).isSome then some (some (folder ++ [fileName]))
  else if (fs.entry? (folder ++ [repositoryMark])).isSome then some none
  else none

/-- The configuration file nearest to a folder, whose names are given from its
own up to the top. -/
def findUp (fs : FileSystem) : (up : List String) → Option Place
  | [] => (foundIn? fs []).getD none
  | name :: up =>
    match foundIn? fs (name :: up).reverse with
    | some found => found
    | none => findUp fs up

/-- The configuration file nearest to a folder. -/
def find (fs : FileSystem) (folder : Place) : Option Place := findUp fs folder.reverse

/-- A configuration, and whether a file says it. -/
structure Loaded where
  config : Config := {}
  fromFile : Bool := false

/-- A path between quotes. Quotes of both kinds are escaped in it. -/
def quotedPath (path : String) : String :=
  "\"" ++ String.join (path.toList.map fun c => if c == '\'' then "\\'" else escapedIn '"' c)
    ++ "\""

/-- The configuration in a file, and what happened on the way; what is wrong,
as a message. -/
def ofFile (fs : FileSystem) (p : Place) : Except String Loaded × List Event :=
  match fs.readAt p with
  | .error f =>
    (.error ("Failed to read config file: " ++ quotedPath p.path ++ ": " ++ f.message), [])
  | .ok text =>
    match decoder.ofText text with
    | .error m => (.error ("Failed to parse config file: " ++ quotedPath p.path ++ ": " ++ m), [])
    | .ok config =>
      match config.validate with
      | .error m => (.error m, [])
      | .ok events => (.ok ⟨config, true⟩, events ++ [.configLoaded p.path])

/-- The configuration that holds in a folder. -/
def load (fs : FileSystem) (folder : Place) : Except String Loaded × List Event :=
  match find fs folder with
  | none => (.ok {}, [])
  | some p => ofFile fs p

end Config

end ConsoleStrip
