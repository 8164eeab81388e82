/-
Tokens.

* `Shape`: what a token is;
* `Token`: a shape, its place, and whether a line break stands before it;
* `Shape.title`: how messages name a token;
* `isReserved`, `isKeyword`, `isFreeName`: the words that the language takes
  for itself, and the others.
-/
import ConsoleStrip.Fault
import ConsoleStrip.Token.Punct

namespace ConsoleStrip

/-- What a token is. Literals keep their spelling; a word is given with its
escapes resolved. -/
inductive Shape where
  | eof
  | punct (p : Punct)
  | word (name : String) (escaped : Bool)
  | str (raw : String)
  | num (raw : String)
  | bigint (raw : String)
  | regex (raw : String)
  /-- A piece of a template, with what is wrong with its escapes. -/
  | template (raw : String) (last : Bool) (fault : Option Fault)
  | markupText (raw : String)
  | broken (fault : Fault)
deriving Repr, Inhabited, BEq

/-- A token of a source text. -/
structure Token where
  shape : Shape
  span : Span
  afterBreak : Bool
deriving Repr, Inhabited, BEq

/-! ### Words -/

/-- Words that are never identifiers. -/
def reservedWords : List String :=
  ["break", "case", "catch", "class", "const", "continue", "debugger", "default", "delete", "do",
   "else", "enum", "export", "extends", "false", "finally", "for", "function", "if", "import", "in",
   "instanceof", "new", "null", "return", "super", "switch", "this", "throw", "true", "try",
   "typeof", "var", "void", "while", "with"]

/-- A word that is never an identifier. -/
def isReserved (w : String) : Bool := reservedWords.contains w

/-- Words that strict code reserves on top of `reservedWords`. -/
def strictWords : List String :=
  ["implements", "interface", "let", "package", "private", "protected", "public", "static", "yield"]

/-- A word that strict code reserves. -/
def isStrictReserved (w : String) : Bool := strictWords.contains w

/-- A word that any strict code may use as a name. -/
def isFreeName (w : String) : Bool := !(isReserved w || isStrictReserved w || w == "await")

/-- Words with a meaning in some place, which are names everywhere else. -/
def contextualWords : List String :=
  ["abstract", "accessor", "any", "as", "assert", "asserts", "async", "bigint", "boolean",
   "constructor", "declare", "from", "get", "global", "infer", "intrinsic", "is", "keyof", "meta",
   "module", "namespace", "never", "number", "object", "of", "out", "override", "readonly",
   "require", "satisfies", "set", "string", "symbol", "target", "type", "undefined", "unique",
   "unknown", "using"]

/-- A word that messages name by its text. -/
def isKnownWord (w : String) : Bool := !isFreeName w || contextualWords.contains w

/-- A word after which a comment on the same line belongs to what follows. -/
def isKeyword (w : String) : Bool :=
  isReserved w || w == "let" || w == "await" || w == "yield"

namespace Shape

/-- The shape is the punctuator `p`. -/
def isPunct (s : Shape) (p : Punct) : Bool := s == .punct p

/-- The shape is the word `w`. -/
def isWord (s : Shape) (w : String) : Bool :=
  match s with
  | word name _ => name == w
  | _ => false

/-- The word that a token is. -/
def word? : Shape → Option String
  | word name _ => some name
  | _ => none

/-- The shape is a word that may name something. -/
def isName : Shape → Bool
  | word name _ => !isReserved name
  | _ => false

/-- The shape is a word that any strict code may use as a name. -/
def isFree : Shape → Bool
  | word name _ => isFreeName name
  | _ => false

/-- The shape is a string. -/
def isStr : Shape → Bool
  | str _ => true
  | _ => false

/-- The name of a token in messages. -/
def title : Shape → String
  | eof => "<eof>"
  | punct p => p.text
  | word name _ => if isKnownWord name then name else "ident"
  | str _ => "string literal"
  | num _ => "numeric literal"
  | bigint _ => "bigint literal"
  | regex _ => "regexp literal"
  | template _ last _ => if last then "no substitution template literal" else "template head"
  | markupText _ => "jsx text"
  | broken _ => "<lexing error>"

/-- A sign between two operands. A comment on its line, to the end of the line, is not
its own. -/
def isBinaryOperator : Shape → Bool
  | punct p => p.isBinary
  | _ => false

/-- A delimited comment on the line of such a token is its own. -/
def ownsComment : Shape → Bool
  | punct .semi | punct .lbrace | punct .rbrace => true
  | word name _ => !isKeyword name
  | str _ | num _ | bigint _ | regex _ | markupText _ => true
  | template .. => false
  | _ => false

end Shape

end ConsoleStrip
