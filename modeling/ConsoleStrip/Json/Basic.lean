/-
JSON values.

* `Json`: a value whose members keep their order;
* `Json.quoted`: a string between quotes. Only the quote, the backslash and
  the control characters are escaped;
* `Json.compact`, `Json.pretty`: the text of a value, on one line or with a
  member on each line.
-/
import ConsoleStrip.Decimal.Shortest

namespace ConsoleStrip

namespace Json

/-- A number: an integer of 64 bits, or one with 53 bits and an exponent. -/
inductive Number where
  | int (i : Int)
  | float (negative : Bool) (x : Binary64)
deriving Repr, DecidableEq, Inhabited

/-- The text of a number. -/
def Number.text : Number → String
  | int i => toString i
  | float negative x => (if negative then "-" else "") ++ x.text

end Json

/-- A JSON value. -/
inductive Json where
  | null
  | bool (b : Bool)
  | num (n : Json.Number)
  | str (s : String)
  | arr (vs : List Json)
  | obj (ms : List (String × Json))
deriving Inhabited

namespace Json

/-- A digit of a hexadecimal number. -/
def hexDigit (n : Nat) : Char := (Nat.toDigits 16 n).getLastD '0'

/-- A character inside quotes. -/
def escaped (c : Char) : String :=
  match c with
  | '"' => "\\\""
  | '\\' => "\\\\"
  | '\n' => "\\n"
  | '\r' => "\\r"
  | '\t' => "\\t"
  | '\x08' => "\\b"
  | '\x0c' => "\\f"
  | c =>
    if c.toNat < 0x20 then
      "\\u00" ++ String.ofList [hexDigit (c.toNat / 16), hexDigit (c.toNat % 16)]
    else String.singleton c

/-- A string between quotes. -/
def quoted (s : String) : String := "\"" ++ String.join (s.toList.map escaped) ++ "\""

mutual

/-- The text of a value on one line, without blanks. -/
def compact : Json → String
  | null => "null"
  | bool b => if b then "true" else "false"
  | num n => n.text
  | str s => quoted s
  | arr vs => "[" ++ compactList vs ++ "]"
  | obj ms => "\x7b" ++ compactMembers ms ++ "\x7d"

/-- Values with commas between them. -/
def compactList : List Json → String
  | [] => ""
  | [v] => compact v
  | v :: w :: rest => compact v ++ "," ++ compactList (w :: rest)

/-- Members with commas between them. -/
def compactMembers : List (String × Json) → String
  | [] => ""
  | [(k, v)] => quoted k ++ ":" ++ compact v
  | (k, v) :: m :: rest => quoted k ++ ":" ++ compact v ++ "," ++ compactMembers (m :: rest)

end

/-- A line break and the indentation of a depth. -/
def lineAt (depth : Nat) : String := "\n" ++ String.join (List.replicate depth "  ")

mutual

/-- The text of a value with a member on each line, at a depth. -/
def prettyAt (depth : Nat) : Json → String
  | null => "null"
  | bool b => if b then "true" else "false"
  | num n => n.text
  | str s => quoted s
  | arr [] => "[]"
  | arr vs => "[" ++ prettyList (depth + 1) vs ++ lineAt depth ++ "]"
  | obj [] => "\x7b\x7d"
  | obj ms => "\x7b" ++ prettyMembers (depth + 1) ms ++ lineAt depth ++ "\x7d"

/-- Values, each on a line of its own. -/
def prettyList (depth : Nat) : List Json → String
  | [] => ""
  | [v] => lineAt depth ++ prettyAt depth v
  | v :: w :: rest => lineAt depth ++ prettyAt depth v ++ "," ++ prettyList depth (w :: rest)

/-- Members, each on a line of its own. -/
def prettyMembers (depth : Nat) : List (String × Json) → String
  | [] => ""
  | [(k, v)] => lineAt depth ++ quoted k ++ ": " ++ prettyAt depth v
  | (k, v) :: m :: rest =>
    lineAt depth ++ quoted k ++ ": " ++ prettyAt depth v ++ "," ++ prettyMembers depth (m :: rest)

end

/-- The text of a value with a member on each line. -/
def pretty (v : Json) : String := v.prettyAt 0

/-- A whole number. -/
def nat (n : Nat) : Json := num (.int n)

/-- A list of strings. -/
def strs (ss : List String) : Json := arr (ss.map str)

end Json

end ConsoleStrip
