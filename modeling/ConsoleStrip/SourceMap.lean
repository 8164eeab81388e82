/-
Source maps.

* `Vlq.encode`: an integer in base 64, five bits to a digit, lowest first,
  the sign in the lowest bit;
* `Segment`: a place in the printed text with its place in the source;
* `Segment.encodeAll`: segments as differences from the one before, commas
  between those of one line and a semicolon at each line's end;
* `SourceMap.text`: the map as JSON.
-/
import ConsoleStrip.Json.Basic
import ConsoleStrip.Print.Output
import ConsoleStrip.Text.Source

namespace ConsoleStrip

namespace Vlq

/-- The digits of base 64. -/
def alphabet : List Char :=
  "ABCDEFGHIJKLMNOPQRSTUVWXYZabcdefghijklmnopqrstuvwxyz0123456789+/".toList

/-- The digit of a number below 64. -/
def digit (n : Nat) : Char := alphabet.getD n 'A'

/-- The digits of a number, each but the last marked as going on. -/
def digits (n : Nat) : List Char :=
  if n < 32 then [digit n] else digit (n % 32 + 32) :: digits (n / 32)
termination_by n

/-- An integer, its sign in the lowest bit. -/
def encode (i : Int) : List Char :=
  digits (if i < 0 then 2 * i.natAbs + 1 else 2 * i.natAbs)

end Vlq

/-- A place in the printed text with its place in the source, all counted
from zero, columns in UTF-16 units. -/
structure Segment where
  line : Nat
  column : Nat
  sourceLine : Nat
  sourceColumn : Nat
deriving Repr, DecidableEq, Inhabited

namespace Segment

/-- A segment as differences from the one before, which counts for the column
only on the same line. There is one source, so its number never changes. -/
def encodeAfter (previous : Segment) (s : Segment) : List Char :=
  let column := if previous.line == s.line then previous.column else 0
  Vlq.encode (s.column - column) ++ Vlq.encode 0
    ++ Vlq.encode (s.sourceLine - previous.sourceLine)
    ++ Vlq.encode (s.sourceColumn - previous.sourceColumn)

/-- What stands between two segments. -/
def separator (first : Bool) (previous s : Segment) : List Char :=
  if previous.line < s.line then List.replicate (s.line - previous.line) ';'
  else if first then [] else [',']

/-- Segments after one that has been written. -/
def encodeFrom (first : Bool) (previous : Segment) : List Segment → List Char
  | [] => []
  | s :: rest => separator first previous s ++ encodeAfter previous s ++ encodeFrom false s rest

/-- All segments of a map. -/
def encodeAll (ss : List Segment) : String := String.ofList (encodeFrom true ⟨0, 0, 0, 0⟩ ss)

end Segment

namespace SourceMap

/-- The segments of the mappings of an output, in order. -/
def segments (src : Source) (o : Output) : List Segment :=
  let starts := src.lineStarts
  o.mappings.reverse.map fun m =>
    let before := starts.takeWhile (· ≤ m.source)
    let start := before.getLastD 0
    ⟨m.line, m.column, before.length - 1,
      (src.slice start m.source).foldl (fun n c => n + utf16Size c) 0⟩

/-- The map of an output as JSON. -/
def text (path : String) (src : Source) (o : Output) : String :=
  let ss := segments src o
  (Json.obj [("version", .nat 3),
    ("sources", .arr (if ss.isEmpty then [] else [.str path])),
    ("names", .arr []),
    ("mappings", .str (Segment.encodeAll ss))]).compact

end SourceMap

end ConsoleStrip
