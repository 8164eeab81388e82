/-
Markup: elements, fragments, attributes and the text between tags.

* `Parser.element`: an element or a fragment, at its `<`.
-/
import ConsoleStrip.Parse.Subscript

namespace ConsoleStrip

namespace Parser

/-- What stands between tags at a position: text, a tag or a brace. -/
def markupToken (src : Source) (pos : Nat) : Scanned :=
  match src.charAt? pos with
  | none => ⟨.eof, pos, []⟩
  | some '<' =>
    if src.hasAt (pos + 1) '/' then ⟨.punct .lessSlash, pos + 2, []⟩ else ⟨.punct .lt, pos + 1, []⟩
  | some '\x7b' => ⟨.punct .lbrace, pos + 1, []⟩
  | some _ => Scan.markupText src pos

theorem le_markupToken (src : Source) (pos : Nat) : pos ≤ (markupToken src pos).stop := by
  unfold markupToken
  split
  · exact Nat.le_refl pos
  · split
    · exact Nat.le_add_right pos 2
    · exact Nat.le_succ pos
  · exact Nat.le_succ pos
  · exact Scan.le_markupText src pos

/-- Passes the current token; text between tags follows. -/
def bumpToText : Parser Unit := do
  let src := (← read).source
  modify fun s =>
    let lo := s.tok.span.hi
    let r := markupToken src lo
    keepFaults
      { s with
        prev := s.tok.span
        tok := ⟨r.shape, ⟨lo, r.stop⟩, false⟩
        lo_le_hi := le_markupToken src lo
        apart := s.apart.upTo s.lo_le_hi }
      r.faults

/-- Passes a closing punctuator; text follows it if the construct is nested. -/
def closeWith (p : Punct) (nested : Bool) : Parser Unit := do
  if p == .gt && (← atGreater) then splitTo .gt
  if !(← at_ p) then failHere (.expected p.text (← shape).title)
  if nested then bumpToText else bump

/-! ### Names -/

/-- A name in markup. -/
def markupIdent : Parser (String × Span) := do
  match ← shape with
  | .word .. =>
    rescan .markupName
    let ⟨sh, span, _⟩ ← cur
    bump
    return (sh.word?.getD "", span)
  | _ => unexpected "jsx identifier"

/-- A name with an optional namespace; `plainName` is the name without one. -/
def namespacedName (plainName : String → Span → Tree) : Parser Tree := do
  let lo ← curLo
  let (name, span) ← markupIdent
  if ← eat .colon then
    let (inner, innerSpan) ← markupIdent
    return .plain .markupNamespaced (← spanFrom lo)
      [.plain (.identName name) span [], .plain (.identName inner) innerSpan []]
  return plainName name span

/-- The name of an element. -/
def elementName : Parser Tree := do
  let lo ← curLo
  let first ← namespacedName fun name span => .plain (.ident name) span []
  loop first fun n => do
    if ← eat .dot then
      let (name, span) ← markupIdent
      return some (.plain .markupMember (← spanFrom lo) [n, .plain (.identName name) span []])
    return none

/-- How a closing tag has to name an element. -/
def nameText : Node → String
  | .node _ (.ident name) _ _ => name
  | .node _ (.identName name) _ _ => name
  | .node _ .markupMember _ [obj, name] => nameText obj ++ "." ++ nameText name
  | .node _ .markupNamespaced _ [ns, name] => nameText ns ++ ":" ++ nameText name
  | _ => ""

/-! ### Braces and attributes -/

/-- An expression in braces, at the brace. -/
def exprContainer (self : Grammar) (role : Role) (nested : Bool) : Parser Tree := do
  let lo ← curLo
  let inner ← curSpan
  expect .lbrace
  within (fun c => { c with includeIn := true, colonExpected := false }) do
  if ← at_ .rbrace then
    let empty := Tree.plain .markupEmpty ⟨inner.hi, ← curLo⟩ []
    closeWith .rbrace nested
    return .node role .markupExpr (← spanFrom lo) [empty]
  if ← eat .ellipsis then
    let e ← self .expr
    closeWith .rbrace nested
    return .node role .markupSpread (← spanFrom lo) [e]
  let e ← self .expr
  closeWith .rbrace nested
  return .node role .markupExpr (← spanFrom lo) [e]

/-- The value of an attribute, after its sign. -/
def attributeValue (self : Grammar) : Parser Tree := do
  match ← cur with
  | ⟨.str raw, span, _⟩ =>
    bump
    return .plain (.str raw) span []
  | ⟨.broken fault, _, _⟩ => throw fault
  | ⟨.punct .lbrace, _, _⟩ =>
    let e ← exprContainer self .plain false
    if (e.kid 0).kind == .markupEmpty then fail e.span .emptyAttribute
    return e
  | ⟨.punct .lt, _, _⟩ => return (← self (.element false)).asRole .plain
  | ⟨_, span, _⟩ => fail span .attributeValue

/-- An attribute, or a spread of attributes. -/
def markupAttribute (self : Grammar) : Parser Tree := do
  let lo ← curLo
  if ← eat .lbrace then
    let dots ← curLo
    expect .ellipsis
    let e ← self .assign
    let span ← spanFrom dots
    expect .rbrace
    return .node .markupAttribute .spread span [e]
  let name ← namespacedName fun name span => .plain (.identName name) span []
  let value ←
    if ← at_ .assign then do
      bumpBy .attributeToken
      attributeValue self
    else pure .absent
  return .node .markupAttribute .markupAttr (← spanFrom lo) [name, value]

/-! ### Elements -/

/-- What stands between an opening and a closing tag. -/
def children (self : Grammar) : Parser (List Tree) :=
  many (return !(← at_ .lessSlash)) do
    let ⟨sh, span, _⟩ ← cur
    match sh with
    | .markupText raw =>
      bumpToText
      return .node .markupChild (.markupText raw) span []
    | .punct .lbrace => exprContainer self .markupChild true
    | .punct .lt => return (← self (.element true)).asRole .markupChild
    | .broken fault => throw fault
    | _ => failHere (.expected "</" sh.title)

/-- A closing tag, which has to have the name of what was opened; a fragment
has none. -/
def closingTag (opened : Tree) (nested : Bool) : Parser Tree := do
  let lo ← curLo
  bump
  let here ← curSpan
  let name ← if ← atGreater then pure .absent else elementName
  closeWith .gt nested
  let span ← spanFrom lo
  if nameText name != nameText opened || name.isPresent != opened.isPresent then
    if opened.isPresent then fail here (.closingTag (nameText opened))
    fail here .closingFragment
  return if name.isPresent then .plain .closingTag span [name] else .plain .closingFragment span []

/-- A fragment, after its `<`. -/
def fragment (self : Grammar) (lo : Nat) (nested : Bool) : Parser Tree := do
  closeWith .gt true
  let opening := Tree.plain .openingFragment (← spanFrom lo) []
  let kids ← children self
  let closing ← closingTag .absent nested
  return .expr .fragment (← spanFrom lo) [opening, .list kids, closing]

/-- An element or a fragment, at its `<`. -/
def element (self : Grammar) (nested : Bool) : Parser Tree :=
  within (fun c => { c with colonExpected := false, inConditional := false }) do
  let lo ← curLo
  expect .lt
  if ← atGreater then return ← fragment self lo nested
  let name ← elementName
  let targs ←
    if ← atLess then do
      let t ← attempt (do return some (← self .typeArgs))
      pure (t.getD .absent)
    else pure .absent
  let attrs ← many (return !(← at_ .slash) && !(← atGreater) && !(← atEof)) (markupAttribute self)
  if ← eat .slash then
    closeWith .gt nested
    let opening := Tree.plain (.openingTag true) (← spanFrom lo) [name, .list attrs, targs]
    return .expr .element (← spanFrom lo) [opening, .list [], .absent]
  closeWith .gt true
  let opening := Tree.plain (.openingTag false) (← spanFrom lo) [name, .list attrs, targs]
  let kids ← children self
  let closing ← closingTag name nested
  return .expr .element (← spanFrom lo) [opening, .list kids, closing]

end Parser

end ConsoleStrip
