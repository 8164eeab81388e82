/-
Patterns for paths.

* `Glob`: a pattern, in which `?` is any character, `*` any text, `**` any
  folders, and brackets are a set of characters;
* `Glob.parse`: the pattern of a text;
* `Glob.accepts`: a whole path matches a pattern.
-/

namespace ConsoleStrip

namespace Glob

/-- A part of a pattern. -/
inductive Token where
  | char (c : Char)
  | anyChar
  /-- Any text. -/
  | anyText
  /-- Any number of folders; at the end of a pattern, anything. -/
  | anyFolders
  /-- A character in one of some ranges, or in none. -/
  | set (negated : Bool) (ranges : List (Char × Char))
deriving Repr, DecidableEq, Inhabited

/-- What is wrong with a pattern. -/
inductive Cause where
  | invalidRange
  | foldersNotAlone
  | manyStars
deriving Repr, DecidableEq, Inhabited

/-- How a cause is said. -/
def Cause.message : Cause → String
  | invalidRange => "invalid range pattern"
  | foldersNotAlone => "recursive wildcards must form a single path component"
  | manyStars => "wildcards are either regular \x60*\x60 or recursive \x60**\x60"

/-- What is wrong with a pattern, and the number of characters before it. -/
structure Fault where
  position : Nat
  cause : Cause
deriving Repr, DecidableEq, Inhabited

/-- What is wrong with a pattern. -/
def Fault.message (f : Fault) : String :=
  "Pattern syntax error near position " ++ toString f.position ++ ": " ++ f.cause.message

/-- The ranges of what stands between brackets. -/
def rangesOf : List Char → List (Char × Char)
  | a :: '-' :: b :: rest => (a, b) :: rangesOf rest
  | c :: rest => (c, c) :: rangesOf rest
  | [] => []

/-- What stands between brackets, after the opening one, and what follows the
closing one. The first character closes nothing. -/
def bracketed? : List Char → Option (Token × List Char)
  | [] => none
  | '!' :: c :: rest => close? true c rest
  | c :: rest => if c == '!' then none else close? false c rest
where
  /-- The characters up to the closing bracket, after the first. -/
  close? (negated : Bool) (c : Char) (rest : List Char) : Option (Token × List Char) :=
    match rest.span (· != ']') with
    | (inner, _ :: rest) => some (.set negated (rangesOf (c :: inner)), rest)
    | (_, []) => none

/-- The parts of a pattern, of which `position` characters have been read, the
last of them `before`. `fuel` bounds the number of parts. -/
def tokensFrom : (fuel position : Nat) → (before : Option Char) → List Char →
    Except Fault (List Token)
  | 0, _, _, _ => .ok []
  | _, _, _, [] => .ok []
  | fuel + 1, position, _, '?' :: rest =>
    return .anyChar :: (← tokensFrom fuel (position + 1) (some '?') rest)
  | fuel + 1, position, _, '[' :: rest =>
    match bracketed? rest with
    | none => .error ⟨position, .invalidRange⟩
    | some (t, left) =>
      return t :: (← tokensFrom fuel (position + 1 + rest.length - left.length) (some ']') left)
  | fuel + 1, position, before, '*' :: rest =>
    match rest with
    | '*' :: '*' :: _ => .error ⟨position + 2, .manyStars⟩
    | '*' :: rest =>
      if before.any (· != '/') then .error ⟨position - 1, .foldersNotAlone⟩
      else
        match rest with
        | [] => .ok [.anyFolders]
        | '/' :: rest =>
          return .anyFolders :: (← tokensFrom fuel (position + 3) (some '/') rest)
        | _ => .error ⟨position + 2, .foldersNotAlone⟩
    | _ => return .anyText :: (← tokensFrom fuel (position + 1) (some '*') rest)
  | fuel + 1, position, _, c :: rest =>
    return .char c :: (← tokensFrom fuel (position + 1) (some c) rest)

end Glob

/-- A pattern for paths. -/
structure Glob where
  tokens : List Glob.Token
deriving Repr, DecidableEq, Inhabited

namespace Glob

/-- The pattern of a text. -/
def parse (pattern : String) : Except Fault Glob := do
  return ⟨← tokensFrom pattern.length 0 none pattern.toList⟩

/-- A character is one that a part stands for. -/
def Token.accepts (c : Char) : Token → Bool
  | char d => c == d
  | set negated ranges => ranges.any (fun (a, b) => a ≤ c && c ≤ b) != negated
  | _ => true

/-- The places from the first of some on, up to the end of a text. -/
def placesFrom (text : Array Char) : List Nat → List Nat
  | [] => []
  | p :: _ => (List.range (text.size + 1 - p)).map (p + ·)

/-- The places that some parts can lead to from places in increasing order. -/
def reach (text : Array Char) : List Token → List Nat → List Nat
  | [], ps => ps
  | [.anyFolders], ps => placesFrom text ps
  | .anyText :: ts, ps => reach text ts (placesFrom text ps)
  | .anyFolders :: ts, ps =>
    reach text ts ((placesFrom text ps).filter fun i => ps.contains i || text[i - 1]? == some '/')
  | t :: ts, ps => reach text ts ((ps.filter fun i => (text[i]?).any t.accepts).map (· + 1))

/-- A whole path matches a pattern. -/
def accepts (g : Glob) (path : String) : Bool :=
  let text := path.toList.toArray
  (reach text g.tokens [0]).contains text.size

end Glob

end ConsoleStrip
