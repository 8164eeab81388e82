/-
Reading a text token by token.

* `Setting`, `State`, `Parser`: what a parser reads, keeps and returns;
* `bump`, `peek`, `rescan`: moving over the tokens;
* `eat`, `expect`, `eatWord`, `expectWord`, `eatSemi`: one token at a time;
* `report`, `fail`: faults that let the reading go on, and faults that end it;
* `attempt`: reading that leaves no trace if it fails;
* `loop`: repetition, bounded by the length of the text.

A failure keeps the state in which it arose, so that a caller may go on from
there. Every state carries the proof that its comments stand apart from each
other, before the current token: no parser can get hold of another one.
-/
import ConsoleStrip.Comment.Attached
import ConsoleStrip.Token.Advance
import ConsoleStrip.Token.Trivia

namespace ConsoleStrip

/-! ### What a parser reads and keeps -/

/-- What stays the same while a text is read. -/
structure Setting where
  source : Source
  /-- Markup is allowed, and so `<T>x` is no type assertion. -/
  markup : Bool

/-- The grammatical surroundings of the current token. -/
structure Context where
  /-- The word `in` is an operator. -/
  includeIn : Bool := false
  inAsync : Bool := false
  inGenerator : Bool := false
  inFunction : Bool := false
  inParameters : Bool := false
  /-- Inside a function that is no arrow function. -/
  hasNewTarget : Bool := false
  inDeclare : Bool := false
  inClass : Bool := false
  hasSuperClass : Bool := false
  /-- Where `arguments` has no meaning: outside the functions of a class. -/
  inClassField : Bool := false
  /-- Inside a method, or an arrow function in one, members of `super` exist. -/
  hasSuper : Bool := false
  inStaticBlock : Bool := false
  breakAllowed : Bool := false
  continueAllowed : Bool := false
  /-- Inside the head of a `for` statement. -/
  inForHead : Bool := false
  /-- Inside the head of a `for await` statement. -/
  inForAwaitHead : Bool := false
  inConditional : Bool := false
  /-- A colon that follows belongs to a conditional expression. -/
  colonExpected : Bool := false
  conditionalTypes : Bool := true
  ignoreElse : Bool := false
  /-- Faults that let the reading go on are not kept. -/
  quiet : Bool := false
deriving Inhabited

/-- What changes while a text is read. -/
structure State where
  tok : Token
  /-- The span of the last token that was passed. -/
  prev : Span := ⟨0, 0⟩
  ctx : Context := {}
  labels : List String := []
  /-- Where an arrow function may start. -/
  arrowStart : Option Nat := none
  /-- The last commas of list literals, by the start of the literal. -/
  lastCommas : List (Nat × Span) := []
  faults : List Fault := []
  comments : Attached := {}
  lo_le_hi : tok.span.lo ≤ tok.span.hi
  /-- The comments do not overlap, and stand before the current token. -/
  apart : Comment.Apart 0 tok.span.lo comments.comments

/-- A computation that reads tokens. -/
abbrev Parser := ReaderT Setting (ExceptT Fault (StateM State))

namespace Parser

/-! ### Tokens -/

/-- A token, the blanks and comments before it, and what was found wrong on
the way. -/
structure Step where
  next : Token
  trivia : Trivia
  faults : List Fault

/-- The token that `scan` reads after what stands between two tokens, with
what was found on the way. -/
def tokenAfter (src : Source) (scan : Scanner) : Except Fault Trivia → Step
  | .error fault =>
    ⟨⟨.broken fault, ⟨src.size, src.size⟩, false⟩, ⟨src.size, false, [], [], []⟩, []⟩
  | .ok t =>
    let s := scan.read src t.stop
    ⟨⟨s.shape, ⟨t.stop, s.stop⟩, t.broke⟩, t, s.faults⟩

/-- What follows a token of the given shape that ends at `pos`: a token
and, with it, the comments and faults between the two. -/
def following (src : Source) (scan : Scanner) (before : Shape) (pos : Nat) : Step :=
  tokenAfter src scan (Trivia.scan src before pos)

/-- A step goes on from a position, and its comments stand between the position
and the token. -/
structure Step.Onward (pos : Nat) (r : Step) : Prop where
  le_lo : pos ≤ r.next.span.lo
  lo_le_hi : r.next.span.lo ≤ r.next.span.hi
  apart : Comment.Apart pos r.next.span.lo r.trivia.comments

theorem tokenAfter_onward {src : Source} (scan : Scanner) {before : Shape} {fuel pos : Nat}
    {broke : Bool} :
    (tokenAfter src scan (Trivia.scanFrom src before fuel ⟨pos, broke, [], [], []⟩)).Onward pos := by
  cases h : Trivia.scanFrom src before fuel ⟨pos, broke, [], [], []⟩ with
  | error fault =>
    exact ⟨Trivia.le_size_of_scanFrom h, Nat.le_refl src.size, .nil pos src.size⟩
  | ok t =>
    have ht := Trivia.scanFrom_apart (Trivia.apart_start pos broke) h
    exact ⟨ht.le_stop, scan.le_stop src t.stop, ht.comments⟩

/-- Attaches the comments before a token. Comments at the end of the text
trail the last token, if there is one. -/
def attachTrivia (a : Attached) (prevHi : Nat) (next : Token) (t : Trivia) : Attached :=
  let a := a.addTrailing prevHi t.own
  match next.shape with
  | .eof => if prevHi == 0 then a.addLeading 0 t.next else a.addTrailing prevHi t.next
  | _ => a.addLeading next.span.lo t.next

theorem mem_attachTrivia {a : Attached} {prevHi : Nat} {next : Token} {t : Trivia} {c : Comment} :
    c ∈ (attachTrivia a prevHi next t).comments ↔ c ∈ a.comments ∨ c ∈ t.comments := by
  have hmem : c ∈ t.comments ↔ c ∈ t.own ∨ c ∈ t.next := List.mem_append
  unfold attachTrivia
  dsimp only
  split
  · split
    · rw [Attached.mem_addLeading, Attached.mem_addTrailing, hmem, or_assoc]
    · rw [Attached.mem_addTrailing, Attached.mem_addTrailing, hmem, or_assoc]
  · rw [Attached.mem_addLeading, Attached.mem_addTrailing, hmem, or_assoc]

theorem Step.Onward.attach {pos : Nat} {r : Step} (h : r.Onward pos) {a : Attached}
    (ha : Comment.Apart 0 pos a.comments) :
    Comment.Apart 0 r.next.span.lo (attachTrivia a pos r.next r.trivia).comments :=
  ha.join h.apart (Nat.zero_le pos) h.le_lo fun _ hc => mem_attachTrivia.mp hc

/-- Keeps faults, unless the context is quiet. -/
def keepFaults (s : State) (fs : List Fault) : State :=
  if s.ctx.quiet then s else { s with faults := s.faults ++ fs }

/-- The state in which the current token has been passed and `scan` has read
the next. -/
def advanced (src : Source) (scan : Scanner) (s : State) : State :=
  let r := following src scan s.tok.shape s.tok.span.hi
  have onward : r.Onward s.tok.span.hi := tokenAfter_onward scan
  keepFaults
    { s with
      prev := s.tok.span
      tok := r.next
      comments := attachTrivia s.comments s.tok.span.hi r.next r.trivia
      lo_le_hi := onward.lo_le_hi
      apart := onward.attach (s.apart.upTo s.lo_le_hi) }
    (r.trivia.faults ++ r.faults)

/-- Passes the current token; `scan` reads the next. -/
def bumpBy (scan : Scanner) : Parser Unit := do
  let src := (← read).source
  modify (advanced src scan)

/-- Passes the current token. -/
def bump : Parser Unit := bumpBy .token

/-- The current token. -/
def cur : Parser Token := return (← get).tok

/-- The shape of the current token. -/
def shape : Parser Shape := return (← get).tok.shape

/-- Where the current token starts. -/
def curLo : Parser Nat := return (← get).tok.span.lo

/-- The span of the current token. -/
def curSpan : Parser Span := return (← get).tok.span

/-- The span of the last token that was passed. -/
def prevSpan : Parser Span := return (← get).prev

/-- Where the last token that was passed ends. -/
def prevHi : Parser Nat := return (← get).prev.hi

/-- A line break stands before the current token. -/
def afterBreak : Parser Bool := return (← get).tok.afterBreak

/-- The span from a position to the end of the last token that was passed. -/
def spanFrom (lo : Nat) : Parser Span := do
  let hi ← prevHi
  return if lo ≤ hi then ⟨lo, hi⟩ else ⟨hi, lo⟩

/-- The token after the current one. -/
def peek : Parser Token := do
  let src := (← read).source
  let s ← get
  return (following src .token s.tok.shape s.tok.span.hi).next

/-- Replaces the current token by what `scan` reads at its start. -/
def rescan (scan : Scanner) : Parser Unit := do
  let src := (← read).source
  modify fun s =>
    let lo := s.tok.span.lo
    let r := scan.read src lo
    keepFaults
      { s with
        tok := ⟨r.shape, ⟨lo, r.stop⟩, s.tok.afterBreak⟩
        lo_le_hi := scan.le_stop src lo
        apart := s.apart }
      r.faults

/-- Cuts the current token down to the punctuator that it starts with. -/
def splitTo (p : Punct) : Parser Unit := rescan (.punct p)

/-! ### Faults -/

/-- Notes a fault and goes on. -/
def report (span : Span) (cause : Cause) : Parser Unit :=
  modify fun s => keepFaults s [⟨span, cause⟩]

/-- Ends the reading. A current token that cannot be read is noted too. -/
def fail {α : Type} (span : Span) (cause : Cause) : Parser α := do
  if let .broken fault := ← shape then
    report fault.span fault.cause
  throw ⟨span, cause⟩

/-- Ends the reading because of the current token. -/
def failHere {α : Type} (cause : Cause) : Parser α := do
  fail (← curSpan) cause

/-- Ends the reading because something else was wanted. -/
def unexpected {α : Type} (wanted : String) : Parser α := do
  failHere (.unexpectedToken (← shape).title wanted)

/-! ### Single tokens -/

/-- The current token is the punctuator `p`. -/
def at_ (p : Punct) : Parser Bool := return (← shape).isPunct p

/-- The current token is one of some punctuators. -/
def atAny (ps : List Punct) : Parser Bool := do
  let s ← shape
  return ps.any s.isPunct

/-- The current token is the word `w`. -/
def atWord (w : String) : Parser Bool := return (← shape).isWord w

/-- The current token is one of some words. -/
def atAnyWord (ws : List String) : Parser Bool := do
  let s ← shape
  return ws.any s.isWord

/-- The current token is the end of the text. -/
def atEof : Parser Bool := return (← shape) == .eof

/-- The current token is any word. -/
def atAnyName : Parser Bool := return (← shape).word?.isSome

/-- The next token is the punctuator `p`. -/
def peekIs (p : Punct) : Parser Bool := return (← peek).shape.isPunct p

/-- The next token is the word `w`. -/
def peekIsWord (w : String) : Parser Bool := return (← peek).shape.isWord w

/-- Passes the punctuator `p` if it is the current token. -/
def eat (p : Punct) : Parser Bool := do
  if ← at_ p then
    bump
    return true
  return false

/-- Passes the word `w` if it is the current token. -/
def eatWord (w : String) : Parser Bool := do
  if ← atWord w then
    bump
    return true
  return false

/-- Passes the punctuator `p`, which has to be the current token. -/
def expect (p : Punct) : Parser Unit := do
  unless ← eat p do
    failHere (.expected p.text (← shape).title)

/-- Passes the word `w`, which has to be the current token. -/
def expectWord (w : String) : Parser Unit := do
  unless ← eatWord w do
    failHere (.expected w (← shape).title)

/-- A statement may end here: at a semicolon, a closing brace, the end of the
text or a line break. -/
def atSemi : Parser Bool := do
  if ← atAny [.semi, .rbrace] then return true
  if ← atEof then return true
  afterBreak

/-- Passes the end of a statement, if there is one. -/
def eatSemi : Parser Bool := do
  if ← eat .semi then return true
  atSemi

/-- Passes the end of a statement. -/
def expectSemi : Parser Unit := do
  unless ← eatSemi do
    failHere (.expected ";" (← shape).title)

/-- Passes a `<`, which may be the start of a longer token. -/
def eatLess : Parser Bool := do
  if ← atAny [.shl, .le, .shlAssign] then splitTo .lt
  eat .lt

/-- The current token starts with `<`, as type arguments do. -/
def atLess : Parser Bool := atAny [.lt, .shl]

/-- The current token starts with `>`. -/
def atGreater : Parser Bool := atAny [.gt, .shr, .ushr, .ge, .shrAssign, .ushrAssign]

/-- Passes a `>`, which may be the start of a longer token. -/
def expectGreater : Parser Unit := do
  if ← atGreater then splitTo .gt
  expect .gt

/-! ### Combinators -/

/-- Reads in another context. -/
def within {α : Type} (f : Context → Context) (p : Parser α) : Parser α := do
  let old := (← get).ctx
  modify fun s => { s with ctx := f s.ctx }
  let restore : Parser Unit := modify fun s => { s with ctx := old }
  let r ← tryCatch p fun e => do
    restore
    throw e
  restore
  return r

/-- The current context. -/
def context : Parser Context := return (← get).ctx

/-- Reads something that may turn out not to be there. If it is not, or if
the reading fails, nothing has been read. Faults on the way are not kept. -/
def attempt {α : Type} (p : Parser (Option α)) : Parser (Option α) := do
  let old ← get
  let r ← tryCatch (within (fun c => { c with quiet := true }) p) fun _ => pure none
  match r with
  | some a => return some a
  | none =>
    set old
    return none

/-- What `p` answers, without reading anything. -/
def lookAhead (p : Parser Bool) : Parser Bool := do
  let old ← get
  let r ← tryCatch (within (fun c => { c with quiet := true }) p) fun _ => pure false
  set old
  return r

/-- Repeats a step until it says that it is done, at most `fuel` times. -/
def loopFor {σ : Type} (step : σ → Parser (Option σ)) : (fuel : Nat) → σ → Parser σ
  | 0, s => pure s
  | fuel + 1, s => do
    match ← step s with
    | some s' => loopFor step fuel s'
    | none => pure s

/-- Repeats a step until it says that it is done. Every step passes a token,
so the length of the text bounds their number. -/
def loop {σ : Type} (init : σ) (step : σ → Parser (Option σ)) : Parser σ := do
  loopFor step ((← read).source.size + 2) init

/-- Reads items as long as `more` holds. -/
def many {α : Type} (more : Parser Bool) (item : Parser α) : Parser (List α) := do
  let acc ← loop ([] : List α) fun acc => do
    if ← more then return some ((← item) :: acc)
    return none
  return acc.reverse

/-- Reads what stands up to a closing punctuator, separated by commas. The
closing punctuator itself is not passed. -/
def commaList {α : Type} (close : Punct) (item : Parser α) : Parser (List α) :=
  many (return !(← at_ close)) do
    let a ← item
    unless ← at_ close do expect .comma
    return a

end Parser

end ConsoleStrip
