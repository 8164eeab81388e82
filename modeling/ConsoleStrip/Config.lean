/-
Configurations.

* `Config`: what a configuration file says;
* `Config.decoder`, `Config.toJson`: a configuration in JSON;
* `Config.validate`: the faults and the warnings of a configuration.
-/
import ConsoleStrip.Event
import ConsoleStrip.Glob
import ConsoleStrip.Options

namespace ConsoleStrip

/-- What a configuration file says. -/
structure Config where
  /-- The folder that is searched for source files. -/
  sourceRoot : String := "./"
  /-- The paths that are left out. -/
  ignores : List String := ["**/node_modules/**", "**/dist/**"]
  includes : List String := []
  external : List PathFilter := []
  keepComments : List String := [defaultMarker]

namespace Config

/-- The name of a configuration file. -/
def fileName : String := ".keepconsolerc.json"

/-- The options of a configuration. -/
def options (c : Config) : Options := ⟨c.includes, c.external, c.keepComments⟩

/-! ### JSON -/

/-- A configuration in JSON. -/
def toJson (c : Config) : Json :=
  .obj [("sourceRoot", .str c.sourceRoot), ("ignores", .strs c.ignores),
    ("includes", .strs c.includes), ("external", .arr (c.external.map PathFilter.toJson)),
    ("keepComments", .strs c.keepComments)]

/-- The text of a configuration file. -/
def text (c : Config) : String := c.toJson.pretty

/-- The fields of a configuration. -/
def fields : List (String × Json.Decoder OptionValue) :=
  [("sourceRoot", OptionValue.textDecoder), ("ignores", OptionValue.textsDecoder),
   ("includes", OptionValue.textsDecoder), ("external", OptionValue.filtersDecoder),
   ("keepComments", OptionValue.textsDecoder)]

/-- A configuration out of its fields. A field that is missing has its
default. -/
def ofFields (fs : Json.Decoder.Fields OptionValue) : Config where
  sourceRoot := (OptionValue.text? fs "sourceRoot").getD ({} : Config).sourceRoot
  ignores := (OptionValue.texts? fs "ignores").getD ({} : Config).ignores
  includes := (OptionValue.texts? fs "includes").getD []
  external := (OptionValue.filters? fs "external").getD []
  keepComments := (OptionValue.texts? fs "keepComments").getD [defaultMarker]

/-- How a configuration is read. -/
def decoder : Json.Decoder Config := .map ofFields (.record "Config" fields)

/-! ### Validation -/

/-- What is wrong with a pattern for paths to leave out. -/
def ignoreFault? (pattern : String) : Option String :=
  match Glob.parse pattern with
  | .ok _ => none
  | .error f =>
    some ("Invalid glob pattern in 'ignores': \"" ++ pattern ++ "\": " ++ f.message)

/-- The first fault of a configuration, or its warnings: names of members that
are not known may still be right. -/
def validate (c : Config) : Except String (List Event) :=
  match c.ignores.findSome? ignoreFault? with
  | some fault => .error fault
  | none => .ok (c.options.unknownIncludes.map Event.unknownMember)

end Config

end ConsoleStrip
