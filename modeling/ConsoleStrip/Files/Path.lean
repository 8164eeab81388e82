/-
Paths.

* `Path.parts`: the parts of a path. A slash at the start and a dot at the
  start are parts; any other slash separates parts, and any other dot is left
  out;
* `Path.join`: a path under a path;
* `Path.isUnder`: a path lies under another, part by part;
* `Path.le`: the order of paths, part by part.
-/

namespace ConsoleStrip

namespace Path

/-- What stands between the slashes of a path. -/
def pieces (path : String) : List String :=
  (path.toList.splitOn '/').map String.ofList

/-- The parts of a path. -/
def parts (path : String) : List String :=
  let ps := pieces path
  let names (ps : List String) : List String := ps.filter fun p => p != "" && p != "."
  match ps with
  | "" :: rest => (if rest.isEmpty then [] else ["/"]) ++ names rest
  | "." :: rest => "." :: names rest
  | _ => names ps

/-- The path is one from the top. -/
def isAbsolute (path : String) : Bool := path.toList.head? == some '/'

/-- A path under a path. -/
def join (path sub : String) : String :=
  if isAbsolute sub then sub
  else if path.isEmpty || path.toList.getLast? == some '/' then path ++ sub
  else path ++ "/" ++ sub

/-- A path lies under another, or is the same. -/
def isUnder (path top : String) : Bool := (parts top).isPrefixOf (parts path)

/-- One path does not come after another. -/
def le (a b : String) : Bool := !decide (parts b < parts a)

/-- The last part of a path. -/
def fileName (path : String) : String := (parts path).getLastD ""

end Path

end ConsoleStrip
