/-
Reading JSON.

* `Json.Read`: a computation that reads; when it fails, it says where it
  stopped, so that a fault without an offset can be given one;
* `Read.string`, `Read.number`, `Read.value`: reads a value;
* `Read.skipValue`: passes over a value that is not wanted;
* `Json.parse`: reads a whole text.
-/
import ConsoleStrip.Json.Fault

namespace ConsoleStrip

namespace Json

/-- What has not been read, and the number of bytes that have. -/
structure Cursor where
  rest : List Char
  offset : Nat
deriving Inhabited

/-- A computation that reads. -/
abbrev Read := ExceptT Fault (StateM Cursor)

/-- The number of brackets that may be open at once, and one more. -/
def maxDepth : Nat := 128

namespace Read

/-! ### Characters and faults -/

/-- The next character. -/
def peek : Read (Option Char) := return (← get).rest.head?

/-- Passes a character. -/
def advance : Read Unit :=
  modify fun s => match s.rest with
    | [] => s
    | c :: rest => ⟨rest, s.offset + c.utf8Size⟩

/-- Fails at what has been read. -/
def failHere {α : Type} (cause : Cause) : Read α := do
  throw ⟨cause, some (← get).offset⟩

/-- Fails after the next byte, if there is one. -/
def failNext {α : Type} (cause : Cause) : Read α := do
  let s ← get
  throw ⟨cause, some (if s.rest.isEmpty then s.offset else s.offset + 1)⟩

/-- Fails without saying where. -/
def refuse {α : Type} (cause : Cause) : Read α := throw ⟨cause, none⟩

/-- A blank between tokens. -/
def isBlank (c : Char) : Bool := c == ' ' || c == '\n' || c == '\t' || c == '\r'

/-- Passes blanks; the next character. -/
def skipBlanks : Read (Option Char) := do
  modify fun s =>
    ⟨s.rest.dropWhile isBlank, s.offset + (s.rest.takeWhile isBlank).length⟩
  peek

/-- The next character after blanks, which has to be there. -/
def someChar (cause : Cause) : Read Char := do
  match ← skipBlanks with
  | some c => return c
  | none => failNext cause

/-- The outcome of a computation; the characters that it read are passed also
if it failed. -/
def observe {α : Type} (x : Read α) : Read (Except Fault α) :=
  ExceptT.mk do return .ok (← x.run)

/-- A fault without an offset is placed where reading has stopped. -/
def placed {α : Type} (x : Read α) : Read α := do
  match ← observe x with
  | .ok a => return a
  | .error f => throw ⟨f.cause, f.offset <|> some (← get).offset⟩

/-- What stands in brackets, and the closing one, which is looked for even if
what stands before it is wrong. -/
def enclosed {α : Type} (body : Read α) (close : Read Unit) : Read α := do
  let inner ← observe body
  let outer ← observe close
  match inner, outer with
  | .ok a, .ok _ => return a
  | .error f, _ => throw f
  | _, .error f => throw f

/-! ### Words, strings and numbers -/

/-- The rest of a word whose first letter has been passed. -/
def ident : List Char → Read Unit
  | [] => pure ()
  | c :: cs => do
    match ← peek with
    | none => failHere .endInValue
    | some d =>
      if c == d then
        advance
        ident cs
      else failNext .identExpected

/-- The value of a hexadecimal digit. -/
def hexValue? (c : Char) : Option Nat :=
  if '0' ≤ c && c ≤ '9' then some (c.toNat - '0'.toNat)
  else if 'a' ≤ c && c ≤ 'f' then some (c.toNat - 'a'.toNat + 10)
  else if 'A' ≤ c && c ≤ 'F' then some (c.toNat - 'A'.toNat + 10)
  else none

/-- The number of bytes of some characters. -/
def byteCount (cs : List Char) : Nat := cs.foldl (fun n c => n + c.utf8Size) 0

/-- Four hexadecimal digits. -/
def hexEscape : Read Nat := do
  let s ← get
  if byteCount (s.rest.take 4) < 4 then
    throw ⟨.endInString, some (s.offset + byteCount s.rest)⟩
  match (s.rest.take 4).mapM hexValue? with
  | some ds =>
    set (⟨s.rest.drop 4, s.offset + 4⟩ : Cursor)
    return ds.foldl (fun n d => 16 * n + d) 0
  | none => throw ⟨.invalidEscape, some (s.offset + 4)⟩

/-- Passes a character that has to come next in the second half of a pair. -/
def pairChar (c : Char) : Read Unit := do
  match ← peek with
  | none => failHere .endInString
  | some d => if c == d then advance else failNext .unfinishedSurrogate

/-- The character of an escape after `\u`. -/
def unicodeEscape : Read Char := do
  let n ← hexEscape
  if 0xDC00 ≤ n && n ≤ 0xDFFF then failHere .loneSurrogate
  if n < 0xD800 || 0xDBFF < n then return Char.ofNat n
  pairChar '\\'
  pairChar 'u'
  let m ← hexEscape
  if m < 0xDC00 || 0xDFFF < m then failHere .loneSurrogate
  return Char.ofNat ((n - 0xD800) * 0x400 + (m - 0xDC00) + 0x10000)

/-- The character of an escape, after its backslash. With `strict` off, what
follows `\u` need not be a character. -/
def escape (strict : Bool) : Read Char := do
  match ← peek with
  | none => failHere .endInString
  | some c =>
    let simple (d : Char) : Read Char := do
      advance
      return d
    match c with
    | '"' | '\\' | '/' => simple c
    | 'b' => simple '\x08'
    | 'f' => simple '\x0c'
    | 'n' => simple '\n'
    | 'r' => simple '\r'
    | 't' => simple '\t'
    | 'u' =>
      advance
      if strict then unicodeEscape
      else
        discard hexEscape
        return '\uFFFD'
    | _ => failNext .invalidEscape

/-- The characters of a string up to its closing quote, last first. -/
def stringFrom (strict : Bool) : (fuel : Nat) → List Char → Read (List Char)
  | 0, acc => return acc
  | fuel + 1, acc => do
    match ← peek with
    | none => failHere .endInString
    | some '"' =>
      advance
      return acc
    | some '\\' =>
      advance
      let c ← escape strict
      stringFrom strict fuel (c :: acc)
    | some c =>
      if c.toNat < 0x20 then failNext .controlCharacter
      advance
      stringFrom strict fuel (c :: acc)

/-- A string, after its opening quote. -/
def string (strict : Bool := true) : Read String := do
  let fuel := (← get).rest.length + 1
  return String.ofList (← stringFrom strict fuel []).reverse

/-- Passes digits; their characters. -/
def digits : Read (List Char) := do
  let s ← get
  let ds := s.rest.takeWhile Char.isDigit
  set (⟨s.rest.drop ds.length, s.offset + ds.length⟩ : Cursor)
  return ds

/-- The greatest number of 64 bits. -/
def maxWord : Nat := Nat.pow 2 64 - 1

/-- Adds digits to a number while it has 64 bits: the number, and how many
digits were added. -/
def accumulate (n count : Nat) : List Char → Nat × Nat
  | [] => (n, count)
  | d :: ds =>
    let next := 10 * n + (d.toNat - '0'.toNat)
    if maxWord < next then (n, count) else accumulate next (count + 1) ds

/-- The value of a significand and an exponent. -/
def floatOf (negative : Bool) (significand : Nat) (exponent : Int) : Read Number := do
  match Binary64.ofDecimal significand exponent with
  | some x => return .float negative x
  | none => failHere .numberOutOfRange

/-- The greatest exponent that is read. -/
def maxExponent : Nat := Nat.pow 2 31 - 1

/-- The digits of an exponent: its value, if it is not too large. -/
def exponentDigits : (fuel n : Nat) → Read (Option Nat)
  | 0, n => return some n
  | fuel + 1, n => do
    match ← peek with
    | some c =>
      if c.isDigit then
        advance
        let next := 10 * n + (c.toNat - '0'.toNat)
        if maxExponent < next then return none
        exponentDigits fuel next
      else return some n
    | none => return some n

/-- An exponent, at its letter. -/
def exponentPart (negative : Bool) (significand : Nat) (start : Int) : Read Number := do
  advance
  let sign ← peek
  if sign == some '+' || sign == some '-' then advance
  match ← peek with
  | none => failHere .endInValue
  | some c =>
    unless c.isDigit do failNext .invalidNumber
    let fuel := (← get).rest.length
    match ← exponentDigits fuel 0 with
    | some e => floatOf negative significand (if sign == some '-' then start - e else start + e)
    | none =>
      if significand != 0 && sign != some '-' then failHere .numberOutOfRange
      discard digits
      return .float negative .zero

/-- What follows the digits of a number. -/
def exponentOrEnd (negative : Bool) (significand : Nat) (exponent : Int) : Read Number := do
  match ← peek with
  | some 'e' | some 'E' => exponentPart negative significand exponent
  | _ => floatOf negative significand exponent

/-- The digits after a point, at the point. -/
def decimalPart (negative : Bool) (significand : Nat) (exponent : Int) : Read Number := do
  advance
  let ds ← digits
  if ds.isEmpty then
    if (← peek).isSome then failNext .invalidNumber else failNext .endInValue
  let (n, count) := accumulate significand 0 ds
  exponentOrEnd negative n (exponent - count)

/-- An integer without point and exponent. One that does not fit is a float,
and so is `-0`. -/
def wholeNumber (negative : Bool) (n : Nat) : Read Number :=
  if !negative then return .int n
  else if n == 0 || Nat.pow 2 63 < n then floatOf true n 0
  else return .int (-n)

/-- What follows the whole part of a number. -/
def afterWhole (negative : Bool) (n : Nat) : Read Number := do
  match ← peek with
  | some '.' => decimalPart negative n 0
  | some 'e' | some 'E' => exponentPart negative n 0
  | _ => wholeNumber negative n

/-- A number, after its sign. -/
def number (negative : Bool) : Read Number := do
  match ← peek with
  | none => failHere .endInValue
  | some '0' =>
    advance
    if (← peek).any Char.isDigit then failNext .invalidNumber
    afterWhole negative 0
  | some c =>
    unless c.isDigit do failNext .invalidNumber
    let ds ← digits
    let (n, count) := accumulate 0 0 ds
    if count == ds.length then afterWhole negative n
    else
      let exponent := ds.length - count
      match ← peek with
      | some '.' => decimalPart negative n exponent
      | _ => exponentOrEnd negative n exponent

/-! ### Lists and objects -/

/-- There is another element of a list. -/
def hasElement (first : Bool) : Read Bool := do
  match ← someChar .endInList with
  | ']' => return false
  | c =>
    if first then return true
    unless c == ',' do failNext .listCommaExpected
    advance
    match ← skipBlanks with
    | some ']' => failNext .trailingComma
    | some _ => return true
    | none => failNext .endInValue

/-- The elements of a list that are left. -/
def elements {α : Type} (element : Read α) : (fuel : Nat) → (first : Bool) → Read (List α)
  | 0, _ => return []
  | fuel + 1, first => do
    unless ← hasElement first do return []
    let a ← element
    return a :: (← elements element fuel false)

/-- The end of a list. -/
def endList : Read Unit := do
  match ← someChar .endInList with
  | ']' => advance
  | ',' =>
    advance
    match ← skipBlanks with
    | some ']' => failNext .trailingComma
    | _ => failNext .trailingCharacters
  | _ => failNext .trailingCharacters

/-- There is another member of an object. -/
def hasMember (first : Bool) : Read Bool := do
  match ← someChar .endInObject with
  | '\x7d' => return false
  | c =>
    if !first then
      unless c == ',' do failNext .objectCommaExpected
      advance
    match ← skipBlanks with
    | some '"' => return true
    | some '\x7d' => failNext .trailingComma
    | some _ => failNext .keyNotString
    | none => failNext .endInValue

/-- A key, at its quote. -/
def key : Read String := do
  advance
  string

/-- The colon after a key. -/
def colon : Read Unit := do
  match ← someChar .endInObject with
  | ':' => advance
  | _ => failNext .colonExpected

/-- The end of an object. -/
def endObject : Read Unit := do
  match ← someChar .endInObject with
  | '\x7d' => advance
  | ',' => failNext .trailingComma
  | _ => failNext .trailingCharacters

/-- The members of an object that are left. -/
def members {α : Type} (member : Read α) : (fuel : Nat) → (first : Bool) → Read (List (String × α))
  | 0, _ => return []
  | fuel + 1, first => do
    unless ← hasMember first do return []
    let k ← key
    colon
    let v ← member
    return (k, v) :: (← members member fuel false)

/-- The number of steps that reading what is left can take. -/
def fuel : Read Nat := return (← get).rest.length + 1

/-- A value that starts with `c` and is no list and no object. -/
def scalar (c : Char) : Read Json := do
  match c with
  | 'n' =>
    advance
    ident ['u', 'l', 'l']
    return .null
  | 't' =>
    advance
    ident ['r', 'u', 'e']
    return .bool true
  | 'f' =>
    advance
    ident ['a', 'l', 's', 'e']
    return .bool false
  | '"' =>
    advance
    return .str (← string)
  | '-' =>
    advance
    return .num (← number true)
  | c => if c.isDigit then return .num (← number false) else failNext .valueExpected

/-- A value, in which at most `depth - 1` brackets are open at once. -/
def value : (depth : Nat) → Read Json
  | 0 => failNext .tooDeep
  | depth + 1 => placed do
    let c ← someChar .endInValue
    match c with
    | '[' =>
      if depth == 0 then failNext .tooDeep
      advance
      let n ← fuel
      return .arr (← enclosed (elements (value depth) n true) endList)
    | '\x7b' =>
      if depth == 0 then failNext .tooDeep
      advance
      let n ← fuel
      return .obj (← enclosed (members (value depth) n true) endObject)
    | c => scalar c

/-! ### Values that are not wanted -/

/-- The bracket that is open. -/
inductive Open where
  | list
  | object
deriving Repr, DecidableEq

/-- Passes a number, after its sign. -/
def skipNumber : Read Unit := do
  match ← peek with
  | some '0' =>
    advance
    if (← peek).any Char.isDigit then failNext .invalidNumber
  | some c =>
    unless c.isDigit do failNext .invalidNumber
    discard digits
  | none => failHere .invalidNumber
  if (← peek) == some '.' then
    advance
    if (← digits).isEmpty then failNext .invalidNumber
  let e ← peek
  if e == some 'e' || e == some 'E' then
    advance
    let sign ← peek
    if sign == some '+' || sign == some '-' then advance
    unless (← peek).any Char.isDigit do failNext .invalidNumber
    discard digits

/-- Passes a value that starts with `c` and is no list and no object. -/
def skipScalar (c : Char) : Read Unit := do
  match c with
  | '"' =>
    advance
    discard (string false)
  | '-' =>
    advance
    skipNumber
  | 'n' | 't' | 'f' => discard (scalar c)
  | c => if c.isDigit then skipNumber else failNext .valueExpected

/-- Closes what can be closed: what is still open, and whether a value has
to follow in it. -/
def skipClosing : (fuel : Nat) → (afterValue : Bool) → List Open → Read (List Open)
  | 0, _, stack => return stack
  | _ + 1, _, [] => return []
  | fuel + 1, afterValue, top :: stack => do
    match ← skipBlanks, top with
    | some ']', .list | some '\x7d', .object =>
      advance
      skipClosing fuel true stack
    | some c, _ =>
      if !afterValue then return top :: stack
      if c == ',' then
        advance
        return top :: stack
      failNext (if top == .list then .listCommaExpected else .objectCommaExpected)
    | none, .list => failNext .endInList
    | none, .object => failNext .endInObject

/-- Passes the key of the next member, if an object is open. -/
def skipKey (stack : List Open) : Read Unit := do
  if stack.head? == some .object then
    match ← skipBlanks with
    | some '"' => advance
    | some _ => failNext .keyNotString
    | none => failNext .endInObject
    discard (string false)
    colon

/-- Passes a value, inside the brackets of `stack`. -/
def skipFrom : (fuel : Nat) → List Open → Read Unit
  | 0, _ => pure ()
  | fuel + 1, stack => do
    let c ← someChar .endInValue
    let (afterValue, stack) ← match c with
      | '[' => do
        advance
        pure (false, Open.list :: stack)
      | '\x7b' => do
        advance
        pure (false, Open.object :: stack)
      | c => do
        skipScalar c
        pure (true, stack)
    let stack ← skipClosing (fuel + 1) afterValue stack
    unless stack.isEmpty do
      skipKey stack
      skipFrom fuel stack

/-- Passes a value that is not wanted. There may be any number of brackets in
it. -/
def skipValue : Read Unit := do skipFrom (← fuel) []

/-! ### Whole texts -/

/-- A value, after which nothing stands. -/
def whole {α : Type} (x : Read α) : Read α := do
  let a ← x
  if (← skipBlanks).isSome then failNext .trailingCharacters
  return a

/-- Reads a whole text. -/
def text {α : Type} (x : Read α) (s : String) : Except Fault α :=
  ((whole x).run ⟨s.toList, 0⟩).1

end Read

/-- The value that a text holds. -/
def parse (s : String) : Except Fault Json := Read.text (Read.value maxDepth) s

/-! ### Values as finite maps -/

/-- Puts a member in the place of one with the same key, else at the end. -/
def putMember (k : String) (v : Json) : List (String × Json) → List (String × Json)
  | [] => [(k, v)]
  | (l, w) :: rest => if k == l then (k, v) :: rest else (l, w) :: putMember k v rest

/-- The members of an object in their order, of those with one key the last
value at the first place. -/
def distinctMembers (ms : List (String × Json)) : List (String × Json) :=
  ms.foldl (fun acc (k, v) => putMember k v acc) []

/-- The member of an object with a key. -/
def get? (k : String) : Json → Option Json
  | obj ms => (distinctMembers ms).find? (·.1 == k) |>.map (·.2)
  | _ => none

end Json

end ConsoleStrip
