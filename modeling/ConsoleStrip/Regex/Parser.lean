/-
Reading regular expressions.

* `Regex.Parse`: a computation that reads an expression. Blanks and comments
  are passed where the flag for them is set;
* `Regex.Parse.escape`, `Regex.Parse.set`, `Regex.Parse.group`: parts of an
  expression;
* `Regex.Ast.parse`: reads an expression.
-/
import ConsoleStrip.Regex.Syntax
import ConsoleStrip.Text.Blank
import ConsoleStrip.Text.Property

namespace ConsoleStrip

namespace Regex

/-- What has not been read, where it starts, and what is known. -/
structure Scan where
  rest : List Char
  place : Place := {}
  ignoreBlanks : Bool := false
  names : List (String × Span) := []
deriving Inhabited

/-- A computation that reads an expression. -/
abbrev Parse := StateT Scan (Except Fault)

namespace Parse

/-! ### Characters -/

/-- The current character. -/
def cur : Parse (Option Char) := return (← get).rest.head?

/-- The character after the current one. -/
def next : Parse (Option Char) := return ((← get).rest.drop 1).head?

/-- The current place. -/
def place : Parse Place := return (← get).place

/-- Nothing is left. -/
def atEnd : Parse Bool := return (← get).rest.isEmpty

/-- The current character is `c`. -/
def isAt (c : Char) : Parse Bool := return (← cur) == some c

/-- Passes a character; something is left. -/
def bump : Parse Bool := do
  let s ← get
  match s.rest with
  | [] => return false
  | c :: rest =>
    set { s with rest, place := s.place.after c }
    return !rest.isEmpty

/-- Passes blanks and comments. `fuel` bounds their number. -/
def skipBlanks : (fuel : Nat) → (inComment : Bool) → Parse Unit
  | 0, _ => pure ()
  | fuel + 1, inComment => do
    match ← cur with
    | none => pure ()
    | some c =>
      if inComment then
        discard bump
        skipBlanks fuel (c != '\n')
      else if isBlank c then
        discard bump
        skipBlanks fuel false
      else if c == '#' then
        discard bump
        skipBlanks fuel true

/-- Passes blanks and comments, if they do not count. -/
def bumpBlanks : Parse Unit := do
  let s ← get
  if s.ignoreBlanks then skipBlanks s.rest.length false

/-- Passes a character and blanks; something is left. -/
def bumpAll : Parse Bool := do
  unless ← bump do return false
  bumpBlanks
  return !(← atEnd)

/-- The first character of some that is no blank, where a comment goes on to
the end. -/
def nonBlank? : (inComment : Bool) → List Char → Option Char
  | _, [] => none
  | inComment, c :: cs =>
    if isBlank c then nonBlank? inComment cs
    else if !inComment && c == '#' then nonBlank? true cs
    else if inComment && c == '\n' then nonBlank? false cs
    else some c

/-- The character after the current one, blanks aside if they do not count. -/
def nextAll : Parse (Option Char) := do
  let s ← get
  if s.ignoreBlanks then return nonBlank? false (s.rest.drop 1)
  next

/-- Passes a text, if it comes next. -/
def bumpIf (text : String) : Parse Bool := do
  let s ← get
  if text.toList.isPrefixOf s.rest then
    for _ in text.toList do discard bump
    return true
  return false

/-! ### Faults -/

/-- The span of nothing at the current place. -/
def here : Parse Span := do
  let p ← place
  return ⟨p, p⟩

/-- The span of the current character. -/
def charSpan : Parse Span := do
  let s ← get
  match s.rest with
  | [] => return ⟨s.place, s.place⟩
  | c :: _ => return ⟨s.place, s.place.after c⟩

/-- The span from a place to the current one. -/
def since (start : Place) : Parse Span := return ⟨start, ← place⟩

/-- Fails at a span. -/
def fail {α : Type} (cause : Cause) (span : Span) (other : Option Span := none) : Parse α :=
  throw ⟨cause, span, other⟩

/-! ### Escapes -/

/-- A character that has a meaning of its own. -/
def isMeta (c : Char) : Bool := "\\.+*?()|[]\x7b\x7d^$#&-~".toList.contains c

/-- A character that may be escaped without need. -/
def isEscapable (c : Char) : Bool :=
  isMeta c || (c.toNat < 0x80 && !c.isAlphanum && c != '<' && c != '>')

/-- The value of a hexadecimal digit. -/
def hexValue? (c : Char) : Option Nat :=
  if c.isDigit then some (c.toNat - '0'.toNat)
  else if 'a' ≤ c && c ≤ 'f' then some (c.toNat - 'a'.toNat + 10)
  else if 'A' ≤ c && c ≤ 'F' then some (c.toNat - 'A'.toNat + 10)
  else none

/-- The character with a code point, if there is one. -/
def charOf? (n : Nat) : Option Char :=
  if n < 0xD800 || (0xE000 ≤ n && n < 0x110000) then some (Char.ofNat n) else none

/-- A number that has been read, as a character. -/
def charAt (n : Nat) (span : Span) : Parse Char :=
  match charOf? n with
  | some c => pure c
  | none => fail .hexInvalid span

/-- Some hexadecimal digits after the first. -/
def hexDigits : (count n : Nat) → Parse Nat
  | 0, n => return n
  | count + 1, n => do
    match (← cur).bind hexValue? with
    | none => fail .hexInvalidDigit (← charSpan)
    | some d =>
      if count == 0 then
        discard bumpAll
        return 16 * n + d
      unless ← bumpAll do fail .escapeUnexpectedEnd (← here)
      hexDigits count (16 * n + d)

/-- Hexadecimal digits up to a closing brace, at what stands before them: the
value, and the number of digits. -/
def hexUpToBrace (brace : Place) : (fuel n count : Nat) → Parse (Nat × Nat)
  | 0, n, count => return (n, count)
  | fuel + 1, n, count => do
    unless ← bumpAll do fail .escapeUnexpectedEnd (← since brace)
    match ← cur with
    | some '\x7d' => return (n, count)
    | c =>
      match c.bind hexValue? with
      | none => fail .hexInvalidDigit (← charSpan)
      | some d => hexUpToBrace brace fuel (16 * n + d) (count + 1)

/-- A character in hexadecimal digits, at the letter that says how many. -/
def hex (start : Place) (letter : Char) : Parse Literal := do
  unless ← bumpAll do fail .escapeUnexpectedEnd (← here)
  if ← isAt '\x7b' then
    let brace ← place
    let first := (← charSpan).stop
    let (n, count) ← hexUpToBrace brace ((← get).rest.length + 1) 0 0
    let last ← place
    discard bumpAll
    if count == 0 then fail .hexEmpty (← since brace)
    return ⟨← charAt n ⟨first, last⟩, false, ← since start⟩
  let first ← place
  let n ← hexDigits (if letter == 'x' then 2 else if letter == 'u' then 4 else 8) 0
  let c ← charAt n (← since first)
  return ⟨c, letter == 'x', ← since start⟩

/-- The characters up to a closing brace, at what stands before them. -/
def upToBrace : (fuel : Nat) → List Char → Parse (List Char)
  | 0, acc => return acc.reverse
  | fuel + 1, acc => do
    unless ← bumpAll do fail .escapeUnexpectedEnd (← here)
    match ← cur with
    | none | some '\x7d' => return acc.reverse
    | some c => upToBrace fuel (c :: acc)

/-- What stands before and after the first place where a text stands in
another. -/
def splitFirst? (sep : List Char) : List Char → Option (List Char × List Char)
  | [] => none
  | c :: cs =>
    if sep.isPrefixOf (c :: cs) then some ([], (c :: cs).drop sep.length)
    else (splitFirst? sep cs).map fun (a, b) => (c :: a, b)

/-- The property that a name stands for. -/
def propertyOf (cs : List Char) : Property :=
  match splitFirst? ['!', '='] cs with
  | some (a, b) => .valued (String.ofList a) (String.ofList b) false
  | none =>
    match splitFirst? [':'] cs <|> splitFirst? ['='] cs with
    | some (a, b) => .valued (String.ofList a) (String.ofList b) true
    | none => .named (String.ofList cs)

/-- A property, at its letter. -/
def property : Parse Property := do
  unless ← bumpAll do fail .escapeUnexpectedEnd (← here)
  match ← cur with
  | some '\x7b' =>
    let name ← upToBrace ((← get).rest.length + 1) []
    discard bump
    return propertyOf name
  | some '\\' => fail .unicodeClassInvalid (← charSpan)
  | c =>
    discard bumpAll
    return .named (String.ofList c.toList)

/-- A part that is one character, one class or one assertion. -/
inductive Primitive where
  | literal (l : Literal)
  | assertion (a : Assertion) (span : Span)
  | dot (span : Span)
  | perl (k : Perl) (negated : Bool) (span : Span)
  | property (p : Property) (negated : Bool) (span : Span)

/-- The span of a primitive part. -/
def Primitive.span : Primitive → Span
  | literal l => l.span
  | assertion _ s | dot s | perl _ _ s | property _ _ s => s

/-- The expression of a primitive part. -/
def Primitive.ast : Primitive → Ast
  | literal l => .literal l
  | assertion a s => .assertion a s
  | dot s => .dot s
  | perl k n s => .perl k n s
  | property p n s => .property p n s

/-- A character of the name of a boundary. -/
def isBoundaryChar (c : Char) : Bool := c.isAlpha || c == '-'

/-- The name of a boundary. -/
def boundaryName : (fuel : Nat) → List Char → Parse (List Char)
  | 0, acc => return acc.reverse
  | fuel + 1, acc => do
    match ← cur with
    | some c =>
      if isBoundaryChar c then
        discard bumpAll
        boundaryName fuel (c :: acc)
      else return acc.reverse
    | none => return acc.reverse

/-- A boundary with a name, at its opening brace; none if the brace opens a
number of repetitions. -/
def boundary? (start : Place) : Parse (Option Assertion) := do
  let saved ← get
  let brace ← place
  unless ← bumpAll do fail .boundaryUnexpectedEnd (← since start)
  let first ← place
  unless (← cur).any isBoundaryChar do
    set saved
    return none
  let name ← boundaryName ((← get).rest.length + 1) []
  unless ← isAt '\x7d' do fail .boundaryUnclosed (← since brace)
  let last ← place
  discard bump
  match String.ofList name with
  | "start" => return some .wordStart
  | "end" => return some .wordEnd
  | "start-half" => return some .wordStartHalf
  | "end-half" => return some .wordEndHalf
  | _ => fail .boundaryUnrecognized ⟨first, last⟩

/-- An escape of one letter, which has been passed. -/
def letterEscape (start : Place) (c : Char) : Parse Primitive := do
  let span ← since start
  let literal (d : Char) : Parse Primitive := return .literal ⟨d, false, span⟩
  if isEscapable c then return ← literal c
  match c with
  | 'a' => literal '\x07'
  | 'f' => literal '\x0c'
  | 't' => literal '\t'
  | 'n' => literal '\n'
  | 'r' => literal '\r'
  | 'v' => literal '\x0b'
  | 'A' => return .assertion .startText span
  | 'z' => return .assertion .endText span
  | 'B' => return .assertion .noBoundary span
  | '<' => return .assertion .wordStart span
  | '>' => return .assertion .wordEnd span
  | 'b' =>
    if ← isAt '\x7b' then
      if let some a ← boundary? start then return .assertion a (← since start)
    return .assertion .boundary span
  | _ => fail .escapeUnrecognized span

/-- An escape, at its backslash. -/
def escape : Parse Primitive := do
  let start ← place
  unless ← bump do fail .escapeUnexpectedEnd (← since start)
  match ← cur with
  | none => fail .escapeUnexpectedEnd (← since start)
  | some c =>
    if c.isDigit then fail .backreference ⟨start, (← charSpan).stop⟩
    let perl (k : Perl) (negated : Bool) : Parse Primitive := do
      discard bump
      return .perl k negated (← since start)
    match c with
    | 'x' | 'u' | 'U' => return .literal (← hex start c)
    | 'p' | 'P' =>
      let p ← property
      return .property p (c == 'P') (← since start)
    | 'd' => perl .digit false
    | 'D' => perl .digit true
    | 's' => perl .space false
    | 'S' => perl .space true
    | 'w' => perl .word false
    | 'W' => perl .word true
    | c =>
      discard bump
      letterEscape start c

/-- A primitive part. -/
def primitive : Parse Primitive := do
  let span ← charSpan
  match ← cur with
  | some '\\' => escape
  | some '.' =>
    discard bump
    return .dot span
  | some '^' =>
    discard bump
    return .assertion .startLine span
  | some '$' =>
    discard bump
    return .assertion .endLine span
  | c =>
    discard bump
    return .literal ⟨c.getD ' ', false, span⟩

/-! ### Character classes -/

/-- What is open in a class: brackets, with what stood before them, or an
operator with its left side. -/
inductive Frame where
  | bracket (before : List ClassItem) (negated : Bool) (span : Span)
  | op (o : SetOp) (left : ClassItem)

/-- Items, last first, as one. No items stand at a place. -/
def unionOf (items : List ClassItem) (here : Span) : ClassItem :=
  match items, items.getLast? with
  | [i], _ => i
  | last :: _, some first => .union items.reverse ⟨first.span.start, last.span.stop⟩
  | _, _ => .union [] here

/-- A primitive part in a class. -/
def setPrimitive : Parse Primitive := do
  if ← isAt '\\' then return ← escape
  let span ← charSpan
  let c ← cur
  discard bump
  return .literal ⟨c.getD ' ', false, span⟩

/-- A primitive part as an item of a class. -/
def itemOf : Primitive → Parse ClassItem
  | .literal l => return .literal l
  | .perl k n s => return .perl k n s
  | .property p n s => return .property p n s
  | x => fail .classEscapeInvalid x.span

/-- A primitive part as the end of a range. -/
def endOf : Primitive → Parse Literal
  | .literal l => return l
  | x => fail .classRangeLiteral x.span

/-- The class that is open is not closed. -/
def unclosed {α : Type} (stack : List Frame) : Parse α := do
  let opened := stack.findSome? fun f => match f with
    | .bracket _ _ span => some span
    | .op .. => none
  fail .classUnclosed (opened.getD (← here))

/-- A character, a class or a range, in a class. -/
def setRange (stack : List Frame) : Parse ClassItem := do
  let first ← setPrimitive
  bumpBlanks
  if ← atEnd then unclosed stack
  let after ← nextAll
  if !(← isAt '-') || after == some ']' || after == some '-' then return ← itemOf first
  unless ← bumpAll do unclosed stack
  let last ← setPrimitive
  let a ← endOf first
  let b ← endOf last
  if b.char < a.char then fail .classRangeInvalid ⟨a.span.start, b.span.stop⟩
  return .range a b

/-- The hyphens at the start of a class, which stand for themselves. -/
def leadingHyphens (start : Place) : (fuel : Nat) → List ClassItem → Parse (List ClassItem)
  | 0, acc => return acc
  | fuel + 1, acc => do
    if ← isAt '-' then
      let item := ClassItem.literal ⟨'-', false, ← charSpan⟩
      unless ← bumpAll do fail .classUnclosed ⟨start, start⟩
      leadingHyphens start fuel (item :: acc)
    else return acc

/-- The opening bracket of a class: its frame, and what is in it already. -/
def openSet (before : List ClassItem) : Parse (Frame × List ClassItem) := do
  let start ← place
  unless ← bumpAll do fail .classUnclosed (← since start)
  let negated ← isAt '^'
  if negated then
    unless ← bumpAll do fail .classUnclosed (← since start)
  let items ← leadingHyphens start ((← get).rest.length + 1) []
  let items ←
    if items.isEmpty && (← isAt ']') then do
      let item := ClassItem.literal ⟨']', false, ← charSpan⟩
      unless ← bumpAll do fail .classUnclosed (← since start)
      pure [item]
    else pure items
  return (.bracket before negated (← since start), items)

/-- A class with a name between colons, if one stands here. -/
def asciiClass? : Parse (Option ClassItem) := do
  let saved ← get
  let rest := saved.rest
  let giveUp : Parse (Option ClassItem) := do
    set saved
    return none
  unless ['[', ':'].isPrefixOf rest do return none
  let negated := (rest.drop 2).head? == some '^'
  let name := (rest.drop (if negated then 3 else 2)).takeWhile (· != ':')
  match Ascii.ofName? (String.ofList name) with
  | none => return none
  | some k =>
    for _ in List.range ((if negated then 3 else 2) + name.length) do discard bump
    if ← bumpIf ":]" then return some (.ascii k negated (← since saved.place))
    giveUp

/-- Applies the operator whose left side is on the stack. -/
def closeOp (stack : List Frame) (right : ClassItem) : ClassItem × List Frame :=
  match stack with
  | .op o left :: rest => (.op o left right ⟨left.span.start, right.span.stop⟩, rest)
  | _ => (right, stack)

/-- The rest of a class, given what is open and the items since the last
bracket or operator, last first. -/
def setFrom : (fuel : Nat) → List Frame → List ClassItem → Parse ClassItem
  | 0, stack, _ => unclosed stack
  | fuel + 1, stack, items => do
    bumpBlanks
    if ← atEnd then unclosed stack
    let c ← cur
    let n ← next
    let whole := unionOf items (← here)
    let operator (o : SetOp) : Parse ClassItem := do
      discard bump
      discard bump
      let (left, stack) := closeOp stack whole
      setFrom fuel (.op o left :: stack) []
    if c == some '[' then
      let named ← if stack.isEmpty then pure none else asciiClass?
      match named with
      | some item => setFrom fuel stack (item :: items)
      | none =>
        let (frame, inner) ← openSet items
        setFrom fuel (frame :: stack) inner
    else if c == some ']' then
      let (whole, stack) := closeOp stack whole
      match stack with
      | .bracket before negated span :: rest =>
        discard bump
        let item := ClassItem.nested negated (← since span.start) whole
        if rest.isEmpty then return item
        setFrom fuel rest (item :: before)
      | _ => unclosed stack
    else if c == some '&' && n == some '&' then operator .intersection
    else if c == some '-' && n == some '-' then operator .difference
    else if c == some '~' && n == some '~' then operator .symmetricDifference
    else
      let item ← setRange stack
      setFrom fuel stack (item :: items)

/-- A class, at its bracket. -/
def set : Parse ClassItem := do
  setFrom (2 * (← get).rest.length + 2) [] []

/-! ### Repetitions -/

/-- Takes the last part, which is to be repeated, and its place. -/
def repeated (parts : List Ast) : Parse (Ast × Place × List Ast) := do
  match parts with
  | [] => fail .repetitionMissing (← here)
  | a :: rest =>
    match a.span? with
    | none => fail .repetitionMissing (← here)
    | some span => return (a, span.start, rest)

/-- Passes a question mark that makes a repetition short. -/
def shortMark (left : Bool) : Parse Unit := do
  if left && (← isAt '?') then discard bump

/-- A repetition by a sign. -/
def repetition (parts : List Ast) (min : Nat) (max : Option Nat) : Parse (List Ast) := do
  let (a, start, rest) ← repeated parts
  shortMark (← bump)
  return .repetition a min max (← since start) :: rest

/-- Passes blanks, whether they count or not. -/
def skipPlainBlanks : (fuel : Nat) → Parse Unit
  | 0 => pure ()
  | fuel + 1 => do
    if (← cur).any isBlank then
      discard bump
      skipPlainBlanks fuel

/-- Decimal digits, with blanks between them if they do not count. -/
def decimalDigits : (fuel : Nat) → List Char → Parse (List Char)
  | 0, acc => return acc.reverse
  | fuel + 1, acc => do
    match ← cur with
    | some c =>
      if c.isDigit then
        discard bumpAll
        decimalDigits fuel (c :: acc)
      else return acc.reverse
    | none => return acc.reverse

/-- A number of repetitions; what is wrong with it is said later. -/
def decimal : Parse (Except Fault Nat) := do
  let fuel := (← get).rest.length + 1
  skipPlainBlanks fuel
  let start ← place
  let ds ← decimalDigits fuel []
  let span ← since start
  skipPlainBlanks fuel
  let n := ds.foldl (fun n d => 10 * n + (d.toNat - '0'.toNat)) 0
  if ds.isEmpty then return .error ⟨.countEmpty, span, none⟩
  if Nat.pow 2 32 ≤ n then return .error ⟨.decimalInvalid, span, none⟩
  return .ok n

/-- A repetition by numbers, at its brace. -/
def counted (parts : List Ast) : Parse (List Ast) := do
  let brace ← place
  let (a, start, rest) ← repeated parts
  let open_ {α : Type} : Parse α := do fail .countUnclosed (← since brace)
  unless ← bumpAll do open_
  let least ← decimal
  if ← atEnd then open_
  let (min, max) ←
    if ← isAt ',' then do
      unless ← bumpAll do open_
      if ← isAt '\x7d' then pure (← least, none)
      else do
        let min ← least
        let most ← decimal
        pure (min, some (← most))
    else do
      let n ← least
      pure (n, some n)
  unless ← isAt '\x7d' do open_
  shortMark (← bumpAll)
  if max.any (· < min) then fail .countInvalid (← since brace)
  return .repetition a min max (← since start) :: rest

/-! ### Groups -/

/-- A character of the name of a group. -/
def isNameChar (first : Bool) (c : Char) : Bool :=
  c == '_' || isAlphabetic c
    || (!first && (isNumeric c || c == '.' || c == '[' || c == ']'))

/-- The name of a group, up to its closing bracket. -/
def groupNameChars : (fuel : Nat) → List Char → Parse (List Char)
  | 0, acc => return acc.reverse
  | fuel + 1, acc => do
    match ← cur with
    | none => return acc.reverse
    | some c =>
      if c == '>' then return acc.reverse
      unless isNameChar acc.isEmpty c do fail .groupNameInvalid (← charSpan)
      discard bump
      groupNameChars fuel (c :: acc)

/-- The name of a group, which no group before it has. -/
def groupName : Parse Unit := do
  if ← atEnd then fail .groupNameUnexpectedEnd (← here)
  let start ← place
  let cs ← groupNameChars ((← get).rest.length + 1) []
  let span ← since start
  if ← atEnd then fail .groupNameUnexpectedEnd (← here)
  discard bump
  if cs.isEmpty then fail .groupNameEmpty ⟨start, start⟩
  let name := String.ofList cs
  let s ← get
  match s.names.lookup name with
  | some first => fail .groupNameDuplicate span first
  | none => modify fun s => { s with names := (name, span) :: s.names }

/-- The items of flags that have been read: the flag, or none for the sign
that clears those after it, and their spans. -/
abbrev FlagItems := List (Option Flag × Span)

/-- The flags that items set and clear. -/
def changeOf (items : FlagItems) : FlagChange :=
  let before := items.takeWhile (·.1.isSome)
  let after := items.dropWhile (·.1.isSome)
  ⟨before.filterMap (·.1), after.filterMap (·.1)⟩

/-- Flags up to a colon or a closing parenthesis. -/
def flagItems : (fuel : Nat) → FlagItems → Parse FlagItems
  | 0, acc => return acc
  | fuel + 1, acc => do
    let span ← charSpan
    match ← cur with
    | none => fail .flagUnexpectedEnd (← here)
    | some ':' | some ')' =>
      match acc.getLast? with
      | some (none, s) => fail .flagDanglingNegation s
      | _ => return acc
    | some c =>
      let item ←
        if c == '-' then pure none
        else match Flag.ofChar? c with
          | some f => pure (some f)
          | none => fail .flagUnrecognized span
      if let some first := acc.lookup item then
        fail (if item.isSome then .flagDuplicate else .flagRepeatedNegation) span first
      unless ← bump do fail .flagUnexpectedEnd (← here)
      flagItems fuel (acc ++ [(item, span)])

/-- What a parenthesis opens: a change of flags, or a group. -/
inductive Opened where
  | flags (c : FlagChange)
  | group (isCapture : Bool) (c : FlagChange) (span : Span)

/-- What stands after an opening parenthesis, at the parenthesis. -/
def group : Parse Opened := do
  let opening ← charSpan
  discard bump
  bumpBlanks
  let looks ← ["?=", "?!", "?<=", "?<!"].anyM bumpIf
  if looks then fail .lookAround (← since opening.start)
  let inner ← here
  let named ← ["?P<", "?<"].anyM bumpIf
  if named then
    groupName
    return .group true {} opening
  if ← bumpIf "?" then
    if ← atEnd then fail .groupUnclosed opening
    let items ← flagItems ((← get).rest.length + 1) []
    let isEnd ← isAt ')'
    discard bump
    if isEnd then
      if items.isEmpty then fail .repetitionMissing inner
      return .flags (changeOf items)
    return .group false (changeOf items) opening
  return .group true {} opening

/-! ### Expressions -/

/-- What has been read of a group: where its first branch starts and where its
last one does, the branches before the last one, and the parts of that one,
last first. -/
structure Level where
  first : Place
  start : Place
  branches : List Ast := []
  parts : List Ast := []

namespace Level

/-- A group of which nothing has been read. -/
def at_ (start : Place) : Level := { first := start, start }

/-- The last branch, which ends at a place. -/
def branch (l : Level) (stop : Place) : Ast :=
  match l.parts with
  | [] => .empty
  | [a] => a
  | parts => .concat parts.reverse ⟨l.start, stop⟩

/-- The branches as one, the last of which ends at a place. -/
def whole (l : Level) (stop : Place) : Ast :=
  if l.branches.isEmpty then l.branch stop
  else .alternation (l.branch stop :: l.branches).reverse ⟨l.first, stop⟩

/-- A part more. -/
def add (l : Level) (a : Ast) : Level := { l with parts := a :: l.parts }

end Level

/-- A group that is open: what stood before it, what it is, its span, and
whether blanks counted outside it. -/
structure OpenGroup where
  outer : Level
  isCapture : Bool
  change : FlagChange
  span : Span
  ignoreBlanks : Bool

/-- Sets whether blanks count. -/
def setIgnoreBlanks (b : Bool) : Parse Unit := modify fun s => { s with ignoreBlanks := b }

/-- The rest of an expression, given the groups that are open, and what has
been read of the innermost one. -/
def exprFrom : (fuel : Nat) → List OpenGroup → Level → Parse Ast
  | 0, _, l => return l.whole (← place)
  | fuel + 1, stack, l => do
    bumpBlanks
    match ← cur with
    | none =>
      match stack with
      | [] => return l.whole (← place)
      | g :: _ => fail .groupUnclosed g.span
    | some '(' =>
      match ← group with
      | .flags c =>
        if let some b := c.state .ignoreBlanks then setIgnoreBlanks b
        exprFrom fuel stack (l.add (.flags c))
      | .group isCapture c span =>
        let old := (← get).ignoreBlanks
        if let some b := c.state .ignoreBlanks then setIgnoreBlanks b
        exprFrom fuel (⟨l, isCapture, c, span, old⟩ :: stack) (.at_ (← place))
    | some ')' =>
      match stack with
      | [] => fail .groupUnopened (← charSpan)
      | g :: rest =>
        setIgnoreBlanks g.ignoreBlanks
        let inner := l.whole (← place)
        discard bump
        let span ← since g.span.start
        exprFrom fuel rest (g.outer.add (.group g.isCapture g.change inner span))
    | some '|' =>
      let branches := l.branch (← place) :: l.branches
      discard bump
      exprFrom fuel stack { l with start := ← place, branches, parts := [] }
    | some '[' => exprFrom fuel stack (l.add (.set (← set)))
    | some '?' => exprFrom fuel stack { l with parts := ← repetition l.parts 0 (some 1) }
    | some '*' => exprFrom fuel stack { l with parts := ← repetition l.parts 0 none }
    | some '+' => exprFrom fuel stack { l with parts := ← repetition l.parts 1 none }
    | some '\x7b' => exprFrom fuel stack { l with parts := ← counted l.parts }
    | some _ => exprFrom fuel stack (l.add (← primitive).ast)

end Parse

/-- Reads an expression, which must not be nested too deeply. -/
def Ast.parse (pattern : String) : Except Fault Ast := do
  let a ← (Parse.exprFrom (pattern.length + 1) [] (.at_ {})).run' { rest := pattern.toList }
  match a.below? nestLimit with
  | some span => throw ⟨.tooDeep, span, none⟩
  | none => return a

end Regex

end ConsoleStrip
