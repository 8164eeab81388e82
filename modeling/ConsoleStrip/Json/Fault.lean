/-
What can be wrong with a JSON text.

* `Json.Cause`: what is wrong;
* `Json.Cause.message`: how it is said;
* `Json.Fault`: a cause and the offset at which it was noticed, if one is
  known.
-/
import ConsoleStrip.Json.Basic
import ConsoleStrip.Text.Quoted

namespace ConsoleStrip

namespace Json

/-- What was found where something else was expected. -/
inductive Found where
  | null
  | bool (b : Bool)
  | num (n : Number)
  | str (s : String)
  | sequence
  | map
deriving Repr, Inhabited

/-- What a value is, as it is said in messages. -/
def Found.text : Found → String
  | null => "null"
  | bool b => "boolean \x60" ++ (if b then "true" else "false") ++ "\x60"
  | num (.int i) => "integer \x60" ++ toString i ++ "\x60"
  | num n => "floating point \x60" ++ n.text ++ "\x60"
  | str s => "string " ++ quotedText s
  | sequence => "sequence"
  | map => "map"

/-- What a value is. -/
def found : Json → Found
  | null => .null
  | bool b => .bool b
  | num n => .num n
  | str s => .str s
  | arr _ => .sequence
  | obj _ => .map

/-- What is wrong with a JSON text. -/
inductive Cause where
  | endInValue
  | endInString
  | endInList
  | endInObject
  | valueExpected
  | identExpected
  | colonExpected
  | listCommaExpected
  | objectCommaExpected
  | keyNotString
  | trailingComma
  | trailingCharacters
  | invalidNumber
  | numberOutOfRange
  | invalidEscape
  | loneSurrogate
  | unfinishedSurrogate
  | controlCharacter
  | tooDeep
  /-- Another type was expected. -/
  | invalidType (found : Found) (expected : String)
  | invalidLength (n : Nat) (expected : String)
  | duplicateField (name : String)
  /-- The value has none of the shapes of a type. -/
  | noVariant (type : String)
  /-- The value was read and then refused. -/
  | refused (reason : String)
deriving Repr, Inhabited

/-- How a cause is said. -/
def Cause.message : Cause → String
  | endInValue => "EOF while parsing a value"
  | endInString => "EOF while parsing a string"
  | endInList => "EOF while parsing a list"
  | endInObject => "EOF while parsing an object"
  | valueExpected => "expected value"
  | identExpected => "expected ident"
  | colonExpected => "expected \x60:\x60"
  | listCommaExpected => "expected \x60,\x60 or \x60]\x60"
  | objectCommaExpected => "expected \x60,\x60 or \x60\x7d\x60"
  | keyNotString => "key must be a string"
  | trailingComma => "trailing comma"
  | trailingCharacters => "trailing characters"
  | invalidNumber => "invalid number"
  | numberOutOfRange => "number out of range"
  | invalidEscape => "invalid escape"
  | loneSurrogate => "lone leading surrogate in hex escape"
  | unfinishedSurrogate => "unexpected end of hex escape"
  | controlCharacter => "control character (\\u0000-\\u001F) found while parsing a string"
  | tooDeep => "recursion limit exceeded"
  | invalidType f expected => "invalid type: " ++ f.text ++ ", expected " ++ expected
  | invalidLength n expected => "invalid length " ++ toString n ++ ", expected " ++ expected
  | duplicateField name => "duplicate field \x60" ++ name ++ "\x60"
  | noVariant type => "data did not match any variant of untagged enum " ++ type
  | refused reason => reason

/-- A cause, and the offset in bytes at which it was noticed. -/
structure Fault where
  cause : Cause
  offset : Option Nat
deriving Repr, Inhabited

namespace Fault

/-- The line of an offset, counted from one, and the bytes on it before the
offset. -/
def position (cs : List Char) (offset : Nat) : Nat × Nat :=
  let step (p : Nat × Nat × Nat) (c : Char) : Nat × Nat × Nat :=
    let (at_, line, start) := p
    let next := at_ + c.utf8Size
    if c == '\n' && next ≤ offset then (next, line + 1, next) else (next, line, start)
  let (_, line, start) := cs.foldl step (0, 1, 0)
  (line, offset - start)

/-- A fault in a text, with its position if it has one. -/
def message (f : Fault) (text : String) : String :=
  match f.offset with
  | none => f.cause.message
  | some o =>
    let (line, column) := position text.toList o
    f.cause.message ++ " at line " ++ toString line ++ " column " ++ toString column

end Fault

end Json

end ConsoleStrip
