/-
Which comments stand around and inside a node.

* `CommentIndex.leading`: the comments right before a position;
* `CommentIndex.trailing`: the comments right after a position, on its line;
* `CommentIndex.interior`: the comments in a node that belong to no child of
  it.

What separates a comment from a node decides, not the token to which the
comment is attached: before a node, blanks of any kind; after it, blanks that
stay on the line.
-/
import ConsoleStrip.Comment.Attached
import ConsoleStrip.Comment.Extent

namespace ConsoleStrip

/-- The comments of a text, in order. -/
structure CommentIndex where
  source : Source
  comments : List Comment
deriving Inhabited

namespace CommentIndex

/-- The index of the comments of a text. -/
def ofAttached (source : Source) (a : Attached) : CommentIndex := ⟨source, a.all⟩

/-- All characters from `lo` up to `hi` satisfy `p`. -/
def isGap (idx : CommentIndex) (p : Char → Bool) (lo hi : Nat) : Bool :=
  lo ≤ hi && (idx.source.slice lo hi).all p

/-- The comments of a list, nearest first, that blanks alone separate from a
position and from each other. The result is in the order of the text. -/
def leadingRun (idx : CommentIndex) : (cursor : Nat) → List Comment → List Comment
  | _, [] => []
  | cursor, c :: rest =>
    if idx.isGap isBlank c.span.hi cursor then leadingRun idx c.span.lo rest ++ [c] else []

/-- The comments right before a position. -/
def leading (idx : CommentIndex) (pos : Nat) : List Comment :=
  idx.leadingRun pos (idx.comments.takeWhile (·.span.hi ≤ pos)).reverse

/-- The comments of a list that blanks on one line alone separate from a
position and from each other. -/
def trailingRun (idx : CommentIndex) : (cursor : Nat) → List Comment → List Comment
  | _, [] => []
  | cursor, c :: rest =>
    if idx.isGap isInlineBlank cursor c.span.lo then c :: trailingRun idx c.span.hi rest else []

/-- The comments right after a position, on its line. -/
def trailing (idx : CommentIndex) (pos : Nat) : List Comment :=
  idx.trailingRun pos (idx.comments.dropWhile (·.span.lo < pos))

/-- The comments around the children of a node. -/
def aroundChildren (idx : CommentIndex) (e : Extent) : List Comment :=
  e.children.flatMap fun c => idx.leading c.lo ++ idx.trailing c.hi

/-- The comments in a node that are neither in nor around a child of it. -/
def interior (idx : CommentIndex) (e : Extent) : List Comment :=
  let inside := (idx.comments.dropWhile (·.span.lo < e.span.lo)).takeWhile (·.span.hi ≤ e.span.hi)
  let loose := inside.filter (!e.childContains ·.span)
  let taken := (idx.aroundChildren e).map (·.span)
  loose.filter (!taken.contains ·.span)

end CommentIndex

end ConsoleStrip
