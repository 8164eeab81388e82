/-
What is said of a project that was rewritten.

* `FileOutcome`: what happened to a file;
* `StripReport`: what happened to all files;
* `StripReport.out`, `StripReport.err`: what is said of it.
-/
import ConsoleStrip.Strip.Rewrite

namespace ConsoleStrip

/-- What happened to a file. -/
inductive FileOutcome where
  /-- Calls were taken out, or would be. -/
  | stripped (path : String) (summary : Summary)
  /-- There was nothing to take out. -/
  | unchanged (retained : Nat)
  /-- The filters do not let it pass. -/
  | excluded
  /-- It could not be read. -/
  | failed (path : String) (message : String)
deriving Repr, DecidableEq

namespace FileOutcome

/-- A file out of which calls were taken. -/
def stripped? : FileOutcome → Option (String × Summary)
  | stripped path s => some (path, s)
  | _ => none

/-- Why a file could not be read. -/
def failure? : FileOutcome → Option String
  | failed _ message => some message
  | _ => none

/-- The number of calls that were kept in a file. -/
def retained : FileOutcome → Nat
  | stripped _ s => s.retained
  | unchanged n => n
  | excluded | failed .. => 0

end FileOutcome

/-- What happened to all files. -/
structure StripReport where
  /-- One for each file, in order. -/
  outcomes : List FileOutcome
  /-- The number of folders that could not be listed. -/
  skipped : Nat
  /-- The files were rewritten. -/
  applied : Bool
deriving Repr, DecidableEq

namespace StripReport

/-- The mark of success. -/
def successMark : String := "✓"

/-- The mark of failure. -/
def failureMark : String := "✘"

/-- A number of things. -/
def plural (n : Nat) (noun : String) : String :=
  toString n ++ " " ++ noun ++ (if n == 1 then "" else "s")

/-- The files out of which calls were taken. -/
def stripped (r : StripReport) : List (String × Summary) :=
  r.outcomes.filterMap FileOutcome.stripped?

/-- Why files could not be read. -/
def failures (r : StripReport) : List String := r.outcomes.filterMap FileOutcome.failure?

/-- The number of calls that were taken out. -/
def removedCalls (r : StripReport) : Nat := (r.stripped.map (·.2.stripped)).foldl (· + ·) 0

/-- The number of calls that were kept. -/
def retainedCalls (r : StripReport) : Nat := (r.outcomes.map FileOutcome.retained).foldl (· + ·) 0

/-- The line on a file. -/
def fileLine (verbose : Bool) : String × Summary → String
  | (path, s) =>
    path ++ ": " ++ plural s.stripped "console call"
      ++ (if verbose && 0 < s.retained then " (" ++ toString s.retained ++ " kept)" else "") ++ "\n"

/-- All that happened, in a sentence. -/
def summaryText (r : StripReport) : String :=
  let scanned := plural r.outcomes.length "file"
  let kept := if r.retainedCalls == 0 then "" else ", " ++ toString r.retainedCalls ++ " kept"
  let counts :=
    plural r.removedCalls "console call" ++ " from " ++ plural r.stripped.length "file"
      ++ " (" ++ scanned ++ " checked" ++ kept
  if r.removedCalls == 0 then "Checked " ++ scanned ++ kept ++ " - no console calls to remove"
  else if r.applied then "Removed " ++ counts ++ ")"
  else "Would remove " ++ counts ++ ", use --apply to rewrite)"

/-- What is said of the files out of which calls were taken, and of all. -/
def out (r : StripReport) (verbose : Bool) : String :=
  String.join (r.stripped.map (fileLine verbose))
    ++ (if r.failures.isEmpty then successMark else failureMark) ++ " " ++ r.summaryText ++ "\n"

/-- What is said of files and folders that could not be read. -/
def err (r : StripReport) : String :=
  String.join (r.failures.map fun m => "error: " ++ m ++ "\n")
    ++ (if r.skipped == 0 then ""
      else "warning: " ++ plural r.skipped "path" ++ " could not be read\n")
    ++ (if r.failures.isEmpty then ""
      else failureMark ++ " " ++ plural r.failures.length "file" ++ " could not be processed\n")

/-- Some file could not be read. -/
def hasFailures (r : StripReport) : Bool := !r.failures.isEmpty

end StripReport

end ConsoleStrip
