/-
Options.

* `Options`: which calls are taken out, of which files, and what keeps a call;
* `Options.handles`: a file with a given path is rewritten;
* `Options.decoder`, `Options.toJson`: options in JSON.
-/
import ConsoleStrip.FileKind
import ConsoleStrip.PathFilter

namespace ConsoleStrip

/-- The members of `console` that are known. -/
def knownMembers : List String :=
  ["debug", "error", "info", "log", "warn", "dir", "dirxml", "table", "trace", "group",
   "groupCollapsed", "groupEnd", "clear", "count", "countReset", "assert", "profile",
   "profileEnd", "time", "timeLog", "timeEnd", "timeStamp", "context", "createTask", "memory"]

/-- Options. -/
structure Options where
  /-- The members of `console` whose calls are decided about; with none, all. -/
  includes : List String := []
  /-- Filters of which a path has to pass one; with none, all do. -/
  external : List PathFilter := []
  /-- The markers that keep a call. -/
  keepComments : List String := [defaultMarker]

namespace Options

/-- The names of members that are not known. -/
def unknownIncludes (o : Options) : List String :=
  o.includes.filter fun name => !knownMembers.contains name

/-- The filters let a path pass. -/
def acceptsPath (o : Options) (path : String) : Bool :=
  o.external.isEmpty || o.external.any (·.accepts path)

/-- A file with a given path is rewritten. -/
def handles (o : Options) (path : String) : Bool :=
  (FileKind.ofPath? path).isSome && o.acceptsPath path

/-- The markers that keep a call. -/
def markers (o : Options) : Markers := .ofList o.keepComments

/-- Options in JSON. -/
def toJson (o : Options) : Json :=
  .obj [("includes", .strs o.includes), ("external", .arr (o.external.map PathFilter.toJson)),
    ("keepComments", .strs o.keepComments)]

end Options

/-! ### Reading -/

/-- The value of a field of options or of a configuration. -/
inductive OptionValue where
  | text (s : String)
  | texts (ss : List String)
  | filters (fs : List PathFilter)

namespace OptionValue

/-- How a field that is a text is read. -/
def textDecoder : Json.Decoder OptionValue := .map .text .text

/-- How a field that is a list of texts is read. -/
def textsDecoder : Json.Decoder OptionValue := .map .texts (.list .text)

/-- How a field that is a list of filters is read. -/
def filtersDecoder : Json.Decoder OptionValue := .map .filters (.list PathFilter.decoder)

/-- The text of a field, if it is there. -/
def text? (fields : Json.Decoder.Fields OptionValue) (name : String) : Option String :=
  match fields.lookup name with
  | some (text s) => some s
  | _ => none

/-- The texts of a field, if it is there. -/
def texts? (fields : Json.Decoder.Fields OptionValue) (name : String) : Option (List String) :=
  match fields.lookup name with
  | some (texts ss) => some ss
  | _ => none

/-- The filters of a field, if it is there. -/
def filters? (fields : Json.Decoder.Fields OptionValue) (name : String) :
    Option (List PathFilter) :=
  match fields.lookup name with
  | some (filters fs) => some fs
  | _ => none

end OptionValue

namespace Options

/-- The fields of options. -/
def fields : List (String × Json.Decoder OptionValue) :=
  [("includes", OptionValue.textsDecoder), ("external", OptionValue.filtersDecoder),
   ("keepComments", OptionValue.textsDecoder)]

/-- Options out of their fields. A field that is missing has its default. -/
def ofFields (fs : Json.Decoder.Fields OptionValue) : Options where
  includes := (OptionValue.texts? fs "includes").getD []
  external := (OptionValue.filters? fs "external").getD []
  keepComments := (OptionValue.texts? fs "keepComments").getD [defaultMarker]

/-- How options are read. -/
def decoder : Json.Decoder Options := .map ofFields (.record "KeepConsoleOptions" fields)

end Options

end ConsoleStrip
