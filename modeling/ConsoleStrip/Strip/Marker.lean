/-
Markers in comments.

* `Markers`: the texts that keep a call, at least one;
* `Markers.keeps`: some comment has a marker in it;
* `occursIn_eq_true_iff`: a text has a marker in it exactly if the marker stands
  somewhere in the text.
-/
import ConsoleStrip.Comment.Basic

namespace ConsoleStrip

/-- The marker when none is configured. -/
def defaultMarker : String := "keep-console"

/-- A list occurs in another, without gaps. -/
def occursIn (needle : List Char) : List Char → Bool
  | [] => needle.isEmpty
  | c :: rest => needle.isPrefixOf (c :: rest) || occursIn needle rest

/-- A list occurs in another if it stands somewhere in it. -/
theorem occursIn_eq_true_iff {needle text : List Char} :
    occursIn needle text = true ↔ needle <:+: text := by
  induction text with
  | nil => simp [occursIn]
  | cons c rest ih =>
    rw [occursIn, Bool.or_eq_true, ih, List.isPrefixOf_iff_prefix, List.infix_cons_iff]

/-- The texts that keep a call. There is always one. -/
structure Markers where
  list : List String
  nonempty : list ≠ []

namespace Markers

/-- The configured markers, or the default one. -/
def ofList : List String → Markers
  | [] => ⟨[defaultMarker], by simp⟩
  | m :: ms => ⟨m :: ms, by simp⟩

/-- A text has a marker in it. -/
def occurIn (ms : Markers) (text : String) : Bool :=
  ms.list.any fun m => occursIn m.toList text.toList

/-- Some comment has a marker in it. -/
def keeps (ms : Markers) (comments : List Comment) : Bool :=
  comments.any fun c => ms.occurIn c.text

end Markers

end ConsoleStrip
