/-
Single tokens.

* `Scan.token`: the token that starts at a position, where no blank and no
  comment stands;
* `Scan.regex`, `Scan.templatePiece`, `Scan.markupText`, `Scan.markupName`,
  `Scan.markupString`: tokens that only the grammar can tell from others.
-/
import ConsoleStrip.Text.Identifier
import ConsoleStrip.Token.Basic

namespace ConsoleStrip

/-- What was read from a position on, and what was found wrong on the way
without spoiling the token. -/
structure Scanned where
  shape : Shape
  stop : Nat
  faults : List Fault := []
deriving Inhabited

namespace Scan

/-- A token that cannot be read. -/
def broken (lo hi stop : Nat) (cause : Cause) : Scanned :=
  ⟨.broken ⟨⟨lo, hi⟩, cause⟩, stop, []⟩

/-! ### Escapes -/

/-- The value of a hexadecimal digit. -/
def hexValue? (c : Char) : Option Nat :=
  if '0' ≤ c && c ≤ '9' then some (c.toNat - '0'.toNat)
  else if 'a' ≤ c && c ≤ 'f' then some (c.toNat - 'a'.toNat + 10)
  else if 'A' ≤ c && c ≤ 'F' then some (c.toNat - 'A'.toNat + 10)
  else none

/-- A hexadecimal digit. -/
def isHex (c : Char) : Bool := (hexValue? c).isSome

/-- The number that hexadecimal digits spell; separators between them do not
count. -/
def hexNumber (cs : List Char) : Nat :=
  cs.foldl (fun n c => match hexValue? c with
    | some d => n * 16 + d
    | none => n) 0

/-- A digit or a separator. -/
def isDigitOrSeparator (digit : Char → Bool) (c : Char) : Bool := digit c || c == '_'

/-- Where `count` hexadecimal digits from `pos` on end, which separators may
divide; or where the first other character stands. -/
def hexEnd (src : Source) : (count fuel pos : Nat) → Except Nat Nat
  | 0, _, pos => .ok pos
  | _ + 1, 0, pos => .error pos
  | count + 1, fuel + 1, pos =>
    match src.charAt? pos with
    | some c =>
      if isHex c then hexEnd src count fuel (pos + 1)
      else if c == '_' then hexEnd src (count + 1) fuel (pos + 1)
      else .error pos
    | none => .error pos

/-- Exactly `count` hexadecimal digits from `pos` on, and where they end; or
the position of the first other character. -/
def fixedHex (src : Source) (count pos : Nat) : Except Nat (Nat × Nat) := do
  let stop ← hexEnd src count (src.size + 1 - pos) pos
  return (hexNumber (src.slice pos stop), stop)

/-- What follows `\u`: four digits, or digits in braces. A failure says where
and what was wrong. -/
def unicodeEscape (src : Source) (pos : Nat) : Except (Nat × Cause) (Nat × Nat) :=
  if src.hasAt pos '\x7b' then
    let lo := pos + 1
    let stop := src.skipWhile (isDigitOrSeparator isHex) lo
    let ds := src.slice lo stop
    let value := hexNumber ds
    if !ds.any isHex || value ≥ 0x100000000 then .error (stop, .badEscape "1-6 hex characters")
    else if value > 0x10FFFF then
      .error (stop, .badEscape "1-6 hex characters in the range 0 to 10FFFF.")
    else if !src.hasAt stop '\x7d' then .error (lo, .invalidUnicodeEscape)
    else .ok (value, stop + 1)
  else
    match fixedHex src 4 pos with
    | .ok r => .ok r
    | .error at_ => .error (at_, .badEscape "4 hex characters")

/-- Checks the escape whose backslash is at `pos`, in a string or a template.
The position after it, what is wrong with it, and whether that spoils the
literal. -/
def escape (src : Source) (inTemplate : Bool) (pos : Nat) : Nat × Option (Cause × Bool) :=
  match src.charAt? (pos + 1) with
  | none => (pos + 1, some (.invalidStringEscape, true))
  | some 'x' =>
    match fixedHex src 2 (pos + 2) with
    | .ok (_, stop) => (stop, none)
    | .error _ => (pos + 2, some (.badEscape "2 hex characters", true))
  | some 'u' =>
    match unicodeEscape src (pos + 2) with
    | .ok (_, stop) => (stop, none)
    | .error (_, cause) => (pos + 2, some (cause, true))
  | some '\r' => (if src.hasAt (pos + 2) '\n' then pos + 3 else pos + 2, none)
  | some c =>
    let isOctal : Char → Bool := fun d => '0' ≤ d && d ≤ '7'
    if c == '0' && !((src.charAt? (pos + 2)).any isOctal) then (pos + 2, none)
    else if isOctal c then (pos + 2, some (.legacyOctalEscape, inTemplate))
    else (pos + 2, none)

/-! ### Words -/

/-- A word with its escapes resolved, as far as it has been read. -/
structure WordSoFar where
  /-- The characters, the last one first. -/
  chars : List Char := []
  escaped : Bool := false
  faults : List Fault := []

/-- Reads a word from `pos` on, and where it ends. -/
def wordFrom (src : Source) : (fuel pos : Nat) → WordSoFar → Except Fault (WordSoFar × Nat)
  | 0, pos, w => .ok (w, pos)
  | fuel + 1, pos, w =>
    match src.charAt? pos with
    | none => .ok (w, pos)
    | some '\\' =>
      if src.hasAt (pos + 1) 'u' then
        match unicodeEscape src (pos + 2) with
        | .ok (n, stop) =>
          let c := Char.ofNat n
          let faults :=
            if isIdentPart c then w.faults
            else w.faults ++ [⟨⟨pos, pos⟩, .invalidIdentifierChar⟩]
          wordFrom src fuel stop ⟨c :: w.chars, true, faults⟩
        | .error (at_, cause) => .error ⟨⟨at_, at_⟩, cause⟩
      else .error ⟨⟨pos, pos⟩, .unicodeEscapeExpected⟩
    | some c =>
      if isIdentPart c then wordFrom src fuel (pos + 1) { w with chars := c :: w.chars }
      else .ok (w, pos)

/-- The word at `pos`. A word that is reserved there has no escapes; before
the first token nothing has made the code strict. -/
def word (src : Source) (strict : Bool) (pos : Nat) : Scanned :=
  match wordFrom src (src.size + 1 - pos) pos {} with
  | .error fault => ⟨.broken fault, pos + 1, []⟩
  | .ok (w, stop) =>
    let name := String.ofList w.chars.reverse
    let taken := if strict then !isFreeName name else isReserved name
    if w.escaped && taken then broken pos stop stop (.escapeInReservedWord name)
    else ⟨.word name w.escaped, stop, w.faults⟩

/-! ### Numbers -/

/-- Some separator has no digit after it. -/
def hasStraySeparator (digit : Char → Bool) : List Char → Bool
  | [] => false
  | c :: rest => (c == '_' && !(rest.head?.any digit)) || hasStraySeparator digit rest

/-- A digit of base eight. -/
def isOctal (c : Char) : Bool := '0' ≤ c && c ≤ '7'

/-- A digit of base two. -/
def isBinary (c : Char) : Bool := c == '0' || c == '1'

/-- A character that may not follow a number. -/
def spoilsNumber (c : Char) : Bool := c.isAlpha || c == '$' || c == '_'

/-- Ends a number whose digits stop at `stop`: a word may not follow. -/
def closeNumber (src : Source) (lo stop : Nat) (faults : List Fault) : Scanned :=
  if (src.charAt? stop).any spoilsNumber then broken stop stop stop .identifierAfterNumber
  else ⟨.num (src.text lo stop), stop, faults⟩

/-- The fault of separators in the digits between `lo` and `hi`, if there is
one. -/
def separatorFaults (src : Source) (lo hi : Nat) (digit : Char → Bool) : List Fault :=
  if hasStraySeparator digit (src.slice lo hi) then [⟨⟨lo, lo⟩, .numericSeparatorMisplaced⟩] else []

/-- A number in another base, whose digits start at `pos + 2`. -/
def radixNumber (src : Source) (pos : Nat) (digit : Char → Bool) (missing : Cause) : Scanned :=
  let lo := pos + 2
  let stop := src.skipWhile (isDigitOrSeparator digit) lo
  if !(src.slice lo stop).any digit then broken lo lo lo missing
  else
    let faults := separatorFaults src lo stop digit
    if src.hasAt stop 'n' then ⟨.bigint (src.text pos (stop + 1)), stop + 1, faults⟩
    else closeNumber src pos stop faults

/-- The exponent at `pos`, if there is one: where it ends, and its faults. -/
def exponent (src : Source) (pos : Nat) : Except Fault (Nat × List Fault) :=
  if src.hasAt pos 'e' || src.hasAt pos 'E' then
    if pos + 1 ≥ src.size then .error ⟨⟨pos + 1, pos + 1⟩, .exponentExpected⟩
    else
      let lo := if src.hasAt (pos + 1) '+' || src.hasAt (pos + 1) '-' then pos + 2 else pos + 1
      let stop := src.skipWhile (isDigitOrSeparator Char.isDigit) lo
      if (src.slice lo stop).any Char.isDigit then
        .ok (stop, separatorFaults src lo stop Char.isDigit)
      else .error ⟨⟨lo, lo⟩, .digitExpected⟩
  else .ok (pos, [])

/-- A decimal number, which may start with a point. -/
def decimalNumber (src : Source) (pos : Nat) : Scanned :=
  let digits := isDigitOrSeparator Char.isDigit
  let whole := src.skipWhile digits pos
  let faults := separatorFaults src pos whole Char.isDigit
  let legacy := src.hasAt pos '0' && whole > pos + 1
  let octal := legacy && (src.slice pos whole).all (isDigitOrSeparator isOctal)
  if src.hasAt whole 'n' && !src.hasAt pos '.' then
    ⟨.bigint (src.text pos (whole + 1)), whole + 1, faults⟩
  else if octal then closeNumber src pos whole (faults ++ [⟨⟨pos, whole⟩, .legacyOctal⟩])
  else
    let faults := if legacy then faults ++ [⟨⟨pos, whole⟩, .legacyDecimal⟩] else faults
    let fraction := if src.hasAt whole '.' then src.skipWhile digits (whole + 1) else whole
    let faults := faults ++ separatorFaults src (whole + 1) fraction Char.isDigit
    match exponent src fraction with
    | .error fault => ⟨.broken fault, fault.span.lo, []⟩
    | .ok (stop, more) => closeNumber src pos stop (faults ++ more)

/-- The number at `pos`. -/
def number (src : Source) (pos : Nat) : Scanned :=
  if src.hasAt pos '0' then
    match src.charAt? (pos + 1) with
    | some 'x' | some 'X' => radixNumber src pos isHex .hexDigitExpected
    | some 'o' | some 'O' => radixNumber src pos isOctal .octalDigitExpected
    | some 'b' | some 'B' => radixNumber src pos isBinary .binaryDigitExpected
    | _ => decimalNumber src pos
  else decimalNumber src pos

/-! ### Strings and templates -/

/-- The string from `start` to `stop`, which lacks its closing quote. -/
def openString (src : Source) (start stop : Nat) (faults : List Fault) : Scanned :=
  ⟨.str (src.text start stop), stop, faults ++ [⟨⟨start, start⟩, .unterminatedString⟩]⟩

/-- Reads a string from `pos` on up to its closing quote. -/
def stringFrom (src : Source) (quote : Char) (start : Nat) :
    (fuel pos : Nat) → (faults : List Fault) → Scanned
  | 0, pos, faults => openString src start pos faults
  | fuel + 1, pos, faults =>
    match src.charAt? pos with
    | none => openString src start pos faults
    | some '\\' =>
      match escape src false pos with
      | (stop, none) => stringFrom src quote start fuel stop faults
      | (stop, some (cause, true)) => broken pos pos stop cause
      | (stop, some (cause, false)) =>
        stringFrom src quote start fuel stop (faults ++ [⟨⟨pos, stop⟩, cause⟩])
    | some c =>
      if c == quote then ⟨.str (src.text start (pos + 1)), pos + 1, faults⟩
      else if c == '\n' || c == '\r' then openString src start pos faults
      else stringFrom src quote start fuel (pos + 1) faults

/-- Reads a piece of a template, up to a backtick or `$` with a brace. The
text of the piece starts at `lo`, the template at `start`. -/
def templateFrom (src : Source) (start lo : Nat) :
    (fuel pos : Nat) → (fault : Option Fault) → Scanned
  | 0, pos, _ => broken start start pos .unterminatedTemplate
  | fuel + 1, pos, fault =>
    match src.charAt? pos with
    | none => broken start start pos .unterminatedTemplate
    | some '\x60' => ⟨.template (src.text lo pos) true fault, pos + 1, []⟩
    | some '\\' =>
      match escape src true pos with
      | (stop, none) => templateFrom src start lo fuel stop fault
      | (stop, some (cause, _)) =>
        templateFrom src start lo fuel stop (some ⟨⟨pos, pos⟩, cause⟩)
    | some '$' =>
      if src.hasAt (pos + 1) '\x7b' then ⟨.template (src.text lo pos) false fault, pos + 2, []⟩
      else templateFrom src start lo fuel (pos + 1) fault
    | some _ => templateFrom src start lo fuel (pos + 1) fault

/-- The piece of a template whose text starts after the backtick or closing
brace at `pos`. -/
def templatePiece (src : Source) (pos : Nat) : Scanned :=
  templateFrom src pos (pos + 1) (src.size + 1 - pos) (pos + 1) none

/-! ### Regular expressions -/

/-- The position of the slash that closes the body of a regular expression. -/
def regexBody (src : Source) : (fuel pos : Nat) → (inClass : Bool) → Option Nat
  | 0, _, _ => none
  | fuel + 1, pos, inClass =>
    match src.charAt? pos with
    | none => none
    | some c =>
      if isLineEnd c then none
      else if c == '\\' then
        match src.charAt? (pos + 1) with
        | none => none
        | some d => if isLineEnd d then none else regexBody src fuel (pos + 2) inClass
      else if c == '/' && !inClass then some pos
      else regexBody src fuel (pos + 1) (c == '[' || (c != ']' && inClass))

/-- The flags that a regular expression may have. -/
def regexFlags : List Char := ['d', 'g', 'i', 'm', 's', 'u', 'v', 'y']

/-- The first character that stands twice in a list. -/
def firstRepeated : (seen : List Char) → List Char → Option Char
  | _, [] => none
  | seen, c :: rest => if seen.contains c then some c else firstRepeated (c :: seen) rest

/-- The regular expression whose opening slash is at `pos`. -/
def regex (src : Source) (pos : Nat) : Scanned :=
  match regexBody src (src.size + 1 - pos) (pos + 1) false with
  | none => broken pos pos (pos + 1) .unterminatedRegex
  | some close =>
    let stop := src.skipWhile isIdentPart (close + 1)
    let flags := src.slice (close + 1) stop
    let here : Span := ⟨pos, stop⟩
    let unknown := if flags.all regexFlags.contains then [] else [⟨here, .unknownRegexFlags⟩]
    let repeated := match firstRepeated [] flags with
      | none => []
      | some c => [⟨here, .duplicateRegexFlag c⟩]
    ⟨.regex (src.text pos stop), stop, unknown ++ repeated⟩

/-! ### Markup -/

/-- The text between tags from `pos` on. -/
def markupText (src : Source) (pos : Nat) : Scanned :=
  let stop := src.skipWhile (fun c => c != '<' && c != '\x7b') pos
  let faults := ((List.range (stop - pos)).map (· + pos)).filterMap fun i =>
    match src.charAt? i with
    | some '>' => some ⟨⟨i, i⟩, .markupTextChar '>'⟩
    | some '\x7d' => some ⟨⟨i, i⟩, .markupTextChar '\x7d'⟩
    | _ => none
  ⟨.markupText (src.text pos stop), stop, faults⟩

/-- A name in markup, in which hyphens are letters. -/
def markupName (src : Source) (pos : Nat) : Scanned :=
  let stop := src.skipWhile (fun c => isIdentPart c || c == '-') pos
  ⟨.word (src.text pos stop) false, stop, []⟩

/-- An attribute's string, which has no escapes and may span lines. -/
def markupString (src : Source) (pos : Nat) (quote : Char) : Scanned :=
  let close := src.skipWhile (· != quote) (pos + 1)
  if close < src.size then ⟨.str (src.text pos (close + 1)), close + 1, []⟩
  else openString src pos close []

/-! ### All tokens -/

/-- The token at `pos`, where no blank and no comment starts. -/
def tokenIn (strict : Bool) (src : Source) (pos : Nat) : Scanned :=
  match src.charAt? pos with
  | none => ⟨.eof, pos, []⟩
  | some c =>
    if isIdentStart c || c == '\\' then word src strict pos
    else if c.isDigit || (c == '.' && (src.charAt? (pos + 1)).any Char.isDigit) then number src pos
    else if c == '"' || c == '\'' then stringFrom src c pos (src.size + 1 - pos) (pos + 1) []
    else if c == '\x60' then templatePiece src pos
    else
      match Punct.ofChars (src.slice pos (pos + 4)) with
      | some p => ⟨.punct p, pos + p.width, []⟩
      | none => broken pos (pos + 1) (pos + 1) (.unexpectedChar c)

/-- The token at `pos` in strict code, which all code after the first token
is. -/
def token : Source → Nat → Scanned := tokenIn true

/-- The token at `pos`, where a quote opens an attribute's string. -/
def attributeToken (src : Source) (pos : Nat) : Scanned :=
  match src.charAt? pos with
  | some '"' => markupString src pos '"'
  | some '\'' => markupString src pos '\''
  | _ => token src pos

end Scan

end ConsoleStrip
