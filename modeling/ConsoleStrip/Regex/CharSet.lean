/-
Sets of characters.

* `Regex.CharSet`: a set, as the test of its members;
* `CharSet.fold`, `CharSet.foldAscii`: the set with all that differs from a
  member in case only;
* `Regex.Ascii.set`, `Regex.Perl.set`, `Regex.Property.set?`: the sets that
  have a name.
-/
import ConsoleStrip.Regex.Syntax
import ConsoleStrip.Text.Blank
import ConsoleStrip.Text.Fold
import ConsoleStrip.Text.Identifier
import ConsoleStrip.Text.Property
import ConsoleStrip.Text.Script

namespace ConsoleStrip

namespace Regex

/-- A set of characters. -/
abbrev CharSet := Char → Bool

namespace CharSet

/-- The characters from one to another. -/
def range (a b : Char) : CharSet := fun c => a ≤ c && c ≤ b

/-- One character. -/
def single (a : Char) : CharSet := fun c => c == a

/-- The characters in either set. -/
def union (s t : CharSet) : CharSet := fun c => s c || t c

/-- The characters that are not in a set. -/
def compl (s : CharSet) : CharSet := fun c => !s c

/-- Two sets combined. -/
def combine (o : SetOp) (s t : CharSet) : CharSet :=
  match o with
  | .intersection => fun c => s c && t c
  | .difference => fun c => s c && !t c
  | .symmetricDifference => fun c => s c != t c

/-- The set with all that folds to the same as a member. -/
def fold (s : CharSet) : CharSet := fun c => (sameFold c).any s

/-- The set with the other case of its ASCII letters. -/
def foldAscii (s : CharSet) : CharSet := fun c =>
  s c || (c.isUpper && s c.toLower) || (c.isLower && s c.toUpper)

/-- The set with the case of its members ignored, if wanted, and then turned
around, if wanted. -/
def foldThenNegate (ignoreCase negated unicode : Bool) (s : CharSet) : CharSet :=
  let s := if ignoreCase then (if unicode then s.fold else s.foldAscii) else s
  if negated then s.compl else s

/-- All members are ASCII. The set is one of bytes: above ASCII all
characters are in it or none is. -/
def isAscii (s : CharSet) : Bool := !s '\x80'

end CharSet

/-- The set with a name between colons. -/
def Ascii.set : Ascii → CharSet
  | alnum => Char.isAlphanum
  | alpha => Char.isAlpha
  | ascii => .range '\x00' '\x7f'
  | blank => fun c => c == '\t' || c == ' '
  | cntrl => fun c => c ≤ '\x1f' || c == '\x7f'
  | digit => Char.isDigit
  | graph => .range '!' '~'
  | lower => Char.isLower
  | print => .range ' ' '~'
  | punct => fun c => '!' ≤ c && c ≤ '~' && !c.isAlphanum
  | space => fun c => c == ' ' || ('\t' ≤ c && c ≤ '\r')
  | upper => Char.isUpper
  | word => fun c => c.isAlphanum || c == '_'
  | xdigit => fun c => c.isDigit || ('a' ≤ c && c ≤ 'f') || ('A' ≤ c && c ≤ 'F')

/-- The set with a letter after a backslash. -/
def Perl.set (unicode : Bool) : Perl → CharSet
  | digit => if unicode then hasCategory "Nd" else Ascii.set .digit
  | space => if unicode then isBlank else Ascii.set .space
  | word => if unicode then isWordChar else Ascii.set .word

/-! ### Properties -/

/-- A name without its case and its separators, and without a leading `is`. -/
def normalName (name : String) : String :=
  let squeeze (cs : List Char) : List Char :=
    (cs.filter fun c => c.toNat < 0x80 && c != ' ' && c != '_' && c != '-').map Char.toLower
  let cs := name.toList
  let hasIs := (cs.take 2).map Char.toLower == ['i', 's']
  let rest := squeeze (if hasIs then cs.drop 2 else cs)
  if hasIs && rest == ['c'] then "isc" else String.ofList rest

/-- The property that a character has or has not, with a given name. -/
def binaryProperty? : String → Option CharSet
  | "alphabetic" | "alpha" => some isAlphabetic
  | "lowercase" | "lower" => some isLowercase
  | "uppercase" | "upper" => some isUppercase
  | "whitespace" | "wspace" | "space" => some isBlank
  | "emoji" => some isEmoji
  | "ideographic" | "ideo" => some isIdeographic
  | "idstart" | "ids" | "xidstart" | "xids" =>
    some fun c => isIdentStart c && c != '$' && c != '_'
  | "idcontinue" | "idc" | "xidcontinue" | "xidc" => some fun c => isIdentPart c && c != '$'
  | "asciihexdigit" | "ahex" => some (Ascii.set .xdigit)
  | "hexdigit" | "hex" => some fun c =>
    Ascii.set .xdigit c || ('０' ≤ c && c ≤ '９') || ('Ａ' ≤ c && c ≤ 'Ｆ')
      || ('ａ' ≤ c && c ≤ 'ｆ')
  | _ => none

/-- The set of a general category with a given name. -/
def categorySet? (name : String) : Option CharSet :=
  match name with
  | "any" => some fun _ => true
  | "ascii" => some (Ascii.set .ascii)
  | "assigned" => some fun c => !hasCategory "Cn" c
  | _ => (categoryOfName? name).map hasCategory

/-- The set of a script with a given name. -/
def scriptSet? (name : String) : Option CharSet :=
  (scriptOfName? name).map fun s c => script c == s

/-- The set of the characters that have a property. The names that a category
shares with a property of another kind stand for the category. -/
def Property.set : Property → Except Cause CharSet
  | named name =>
    let n := normalName name
    let binary := if n == "cf" || n == "sc" || n == "lc" then none else binaryProperty? n
    match binary <|> categorySet? n <|> scriptSet? n with
    | some s => .ok s
    | none => .error .propertyNotFound
  | valued name value _ =>
    let found : Option CharSet → Except Cause CharSet
      | some s => .ok s
      | none => .error .propertyValueNotFound
    match normalName name with
    | "generalcategory" | "gc" => found (categorySet? (normalName value))
    | "script" | "sc" | "scriptextensions" | "scx" => found (scriptSet? (normalName value))
    | n => if (binaryProperty? n).isSome then .error .propertyValueNotFound
      else .error .propertyNotFound

/-- The property is one that is not had. -/
def Property.isNegated (negated : Bool) : Property → Bool
  | valued _ _ false => !negated
  | _ => negated

end Regex

end ConsoleStrip
