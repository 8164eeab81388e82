/-
Transforming a file.

* `ParseFailure`: why a file cannot be read;
* `Transformed`: a file that was left as it is, or rewritten;
* `Options.transform`: what becomes of a file, and the events on the way.

A file whose path is not one to rewrite is left as it is, whatever is in it.
Any other file is printed anew, even if no call was taken out.
-/
import ConsoleStrip.Event
import ConsoleStrip.Options
import ConsoleStrip.Parse.File
import ConsoleStrip.Print.Tree
import ConsoleStrip.SourceMap

namespace ConsoleStrip

/-- Why a file cannot be read as a module. -/
structure ParseFailure where
  path : String
  /-- Counted from one. -/
  line : Nat
  /-- Counted from one, as the text is displayed. -/
  column : Nat
  message : String
deriving Repr, DecidableEq, Inhabited

namespace ParseFailure

/-- What is wrong with a file. -/
def display (f : ParseFailure) : String :=
  "Failed to parse " ++ f.path ++ ":" ++ toString f.line ++ ":" ++ toString f.column ++ ": "
    ++ f.message

/-- The failure of a fault in a source text. -/
def ofFault (path : String) (src : Source) (f : Fault) : ParseFailure :=
  ⟨path, src.lineNumber f.span.lo, src.displayColumn f.span.lo + 1, f.cause.message⟩

end ParseFailure

/-- A file that was read. -/
def parseFile (path code : String) (kind : FileKind) : Except ParseFailure ParsedFile :=
  let src := Source.ofString code
  match src.parse kind.markup with
  | .ok file => .ok file
  | .error f => .error (.ofFault path src f)

/-- The comments of a file. -/
def ParsedFile.index (file : ParsedFile) : CommentIndex := .ofAttached file.source file.comments

/-- A file out of which calls were taken. -/
structure Rewritten where
  path : String
  source : Source
  module : Node
  comments : Attached
  verdicts : List Verdict

namespace Rewritten

/-- The file printed. -/
def output (r : Rewritten) : Output := r.module.print r.comments

/-- What was done. -/
def summary (r : Rewritten) : Summary := .ofVerdicts r.verdicts

/-- The events of a file: one for each call, and one at the end. -/
def events (r : Rewritten) : List Event :=
  r.verdicts.map (fun v => .call (r.source.lineNumber v.call.lo) v.member.name v.keep)
    ++ [.transformed r.path r.summary]

end Rewritten

/-- What became of a file. -/
inductive Transformed where
  | untouched (code : String)
  | rewritten (r : Rewritten)

namespace Transformed

/-- The text of a file. -/
def code : Transformed → String
  | untouched code => code
  | rewritten r => r.output.text

/-- The source map of a file that was rewritten. -/
def map? : Transformed → Option String
  | untouched _ => none
  | rewritten r => some (SourceMap.text r.path r.source r.output)

/-- What was done to a file. -/
def summary : Transformed → Summary
  | untouched _ => {}
  | rewritten r => r.summary

/-- The file was left as it is. -/
def isUntouched : Transformed → Bool
  | untouched _ => true
  | rewritten _ => false

end Transformed

namespace Options

/-- The policy of options for a file. -/
def policy (o : Options) (index : CommentIndex) : Policy := ⟨o.includes, o.markers, index⟩

/-- A file with the calls taken out that nothing keeps. -/
def rewrite (o : Options) (path : String) (file : ParsedFile) : Rewritten :=
  let (module, verdicts) := (o.policy file.index).strip file.module
  ⟨path, file.source, module, file.comments, verdicts⟩

/-- What becomes of a file, and the events on the way. -/
def transform (o : Options) (code path : String) :
    Except ParseFailure Transformed × List Event :=
  match FileKind.ofPath? path with
  | none => (.ok (.untouched code), [.unsupported path])
  | some kind =>
    if !o.acceptsPath path then (.ok (.untouched code), [.excluded path])
    else
      match parseFile path code kind with
      | .error f => (.error f, [])
      | .ok file =>
        let r := o.rewrite path file
        (.ok (.rewritten r), r.events)

/-- What becomes of a file that is transformed a number of times, each time the
outcome of the time before. The first failure ends it. -/
def rounds (o : Options) (path : String) : Nat → String → List (Except ParseFailure Transformed)
  | 0, _ => []
  | n + 1, code =>
    match (o.transform code path).1 with
    | .error f => [.error f]
    | .ok t => .ok t :: o.rounds path n t.code

end Options

end ConsoleStrip
