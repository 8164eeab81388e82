/-
Files and folders.

* `FileSystem`: what stands at each place. There are no links;
* `FileSystem.locate`: the place that a path names, seen from a folder;
* `FileSystem.read`, `FileSystem.write`: the text of a file. A write can fail
  before the file is opened, or stop on the way;
* `FileFault`: why a file cannot be read or written.
-/
import ConsoleStrip.Files.Path

namespace ConsoleStrip

/-- What a file holds. -/
inductive Content where
  | text (s : String)
  /-- Bytes that are no text. -/
  | binary (bytes : ByteArray)
deriving Inhabited

/-- What a file with given bytes holds. -/
def Content.ofBytes (bytes : ByteArray) : Content :=
  match String.fromUTF8? bytes with
  | some s => .text s
  | none => .binary bytes

/-- What a file holds of which only the first bytes were written. -/
def Content.firstBytes (text : String) (n : Nat) : Content :=
  .ofBytes (text.toUTF8.extract 0 n)

/-- What stands at a place. -/
inductive Entry where
  | file (c : Content)
  | folder
deriving Inhabited

/-- A place: the names of the folders from the top on, and its own. -/
abbrev Place := List String

/-- The path of a place. -/
def Place.path (p : Place) : String := "/" ++ "/".intercalate p

/-- Why a file cannot be read or written. -/
inductive FileFault where
  | notFound
  | notFolder
  | isFolder
  | nameTooLong
  | notText
  /-- What else the system says, with its code. -/
  | system (text : String) (code : Nat)
deriving Repr, DecidableEq, Inhabited

/-- How a fault is said. -/
def FileFault.message : FileFault → String
  | notFound => "No such file or directory (os error 2)"
  | notFolder => "Not a directory (os error 20)"
  | isFolder => "Is a directory (os error 21)"
  | nameTooLong => "File name too long (os error 36)"
  | notText => "stream did not contain valid UTF-8"
  | system text code => text ++ " (os error " ++ toString code ++ ")"

/-- How the system fails to write a file. -/
structure WriteStop where
  fault : FileFault
  /-- The number of bytes that were written by then, unless the file was not
  even opened. -/
  written? : Option Nat := none
deriving Repr, DecidableEq, Inhabited

/-- What stands at each place, and where the system fails to write a file. The
top is a folder. A run writes each place at most once, so a failure that comes of
what was written before, as when a disk gets full, is told by its place too. -/
structure FileSystem where
  entries : List (Place × Entry) := []
  stops : List (Place × WriteStop) := []
deriving Inhabited

namespace FileSystem

/-- The number of bytes that a name may have. -/
def maxName : Nat := 255

/-- The number of bytes that a path has to stay below. -/
def maxPath : Nat := 4096

/-- What stands at a place. -/
def entry? (fs : FileSystem) (p : Place) : Option Entry :=
  if p.isEmpty then some .folder else fs.entries.lookup p

/-- The file system with something at a place, where all else stays. -/
def put (fs : FileSystem) (p : Place) (e : Entry) : FileSystem :=
  { fs with entries := (p, e) :: fs.entries.filter (·.1 != p) }

/-- The file system with a folder at a place and folders around it. -/
def putFolders (fs : FileSystem) (p : Place) : FileSystem :=
  (List.range (p.length + 1)).foldl
    (fun fs n => if (fs.entry? (p.take n)).isSome then fs else fs.put (p.take n) .folder) fs

/-- The file system with a file at a place and folders around it. -/
def putFile (fs : FileSystem) (p : Place) (c : Content) : FileSystem :=
  (fs.putFolders p.dropLast).put p (.file c)

/-- The names in a folder, in order. -/
def names (fs : FileSystem) (p : Place) : List String :=
  let inside := fs.entries.filterMap fun (q, _) =>
    if q.length == p.length + 1 && p.isPrefixOf q then q.getLast? else none
  inside.mergeSort fun a b => !decide (b < a)

/-- There is a folder at a place, in which something can be named. -/
def checkFolder (fs : FileSystem) (p : Place) : Except FileFault Unit :=
  match fs.entry? p with
  | some .folder => .ok ()
  | some (.file _) => .error .notFolder
  | none => .error .notFound

/-- The place that names lead to from a folder. Each name but the last has to
be that of a folder. -/
def follow (fs : FileSystem) : Place → List String → Except FileFault Place
  | p, [] => .ok p
  | p, name :: rest => do
    fs.checkFolder p
    if name == "" || name == "." then fs.follow p rest
    else if name == ".." then fs.follow p.dropLast rest
    else if maxName < name.utf8ByteSize then throw .nameTooLong
    else fs.follow (p ++ [name]) rest

/-- The place that a path names, seen from a folder. What stands there may
not exist. -/
def locate (fs : FileSystem) (cwd : Place) (path : String) : Except FileFault Place :=
  if maxPath ≤ path.utf8ByteSize then .error .nameTooLong
  else if path.isEmpty then .error .notFound
  else fs.follow (if Path.isAbsolute path then [] else cwd) (Path.pieces path)

/-- What stands where a path leads. -/
def at? (fs : FileSystem) (cwd : Place) (path : String) : Option Entry :=
  match fs.locate cwd path with
  | .ok p => fs.entry? p
  | .error _ => none

/-- A path leads to a folder. -/
def isFolder (fs : FileSystem) (cwd : Place) (path : String) : Bool :=
  match fs.at? cwd path with
  | some .folder => true
  | _ => false

/-- The text of the file at a place. -/
def readAt (fs : FileSystem) (p : Place) : Except FileFault String :=
  match fs.entry? p with
  | none => .error .notFound
  | some .folder => .error .isFolder
  | some (.file (.binary _)) => .error .notText
  | some (.file (.text s)) => .ok s

/-- The text of a file. -/
def read (fs : FileSystem) (cwd : Place) (path : String) : Except FileFault String := do
  fs.readAt (← fs.locate cwd path)

/-- The place at which a file is opened to be written. It may be new, but not
the folder around it. -/
def opened (fs : FileSystem) (cwd : Place) (path : String) : Except FileFault Place := do
  let p ← fs.locate cwd path
  match fs.entry? p with
  | some .folder => throw .isFolder
  | some (.file _) => return p
  | none =>
    fs.checkFolder p.dropLast
    return p

/-- What came of a write: the files then, and what was wrong. -/
@[ext]
structure Written where
  files : FileSystem
  fault? : Option FileFault := none
deriving Inhabited

/-- Writes a text to a file. What the file held is lost when it is opened, so a
write that stops on the way leaves the bytes that were written by then. -/
def write (fs : FileSystem) (cwd : Place) (path text : String) : Written :=
  match fs.opened cwd path with
  | .error f => ⟨fs, some f⟩
  | .ok p =>
    match fs.stops.lookup p with
    | none => ⟨fs.put p (.file (.text text)), none⟩
    | some ⟨f, none⟩ => ⟨fs, some f⟩
    | some ⟨f, some n⟩ => ⟨fs.put p (.file (.firstBytes text n)), some f⟩

/-- The files whose text is another than before, with their texts. -/
def newTexts (before after : FileSystem) : List (Place × String) :=
  after.entries.filterMap fun (p, e) =>
    match e with
    | .file (.text s) => if (before.readAt p).toOption != some s then some (p, s) else none
    | _ => none

end FileSystem

end ConsoleStrip
