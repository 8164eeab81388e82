/-
Punctuators.

* `Punct`: every punctuator of the language, `</` among them, which is one
  token only between the tags of markup;
* `Punct.text`: its spelling;
* `Punct.ofChars`: the longest punctuator that a text starts with.
-/

namespace ConsoleStrip

/-- A punctuator. -/
inductive Punct where
  | lbrace | rbrace | lparen | rparen | lbracket | rbracket
  | semi | comma | dot | ellipsis | question | questionDot | colon | arrow | atSign | hash
  | lt | gt | le | ge | eq2 | ne | eq3 | ne2
  | plus | minus | star | slash | percent | power | inc | dec
  | shl | shr | ushr | amp | pipe | caret | bang | tilde | and | or | nullish
  | assign | plusAssign | minusAssign | starAssign | slashAssign | percentAssign | powerAssign
  | shlAssign | shrAssign | ushrAssign | ampAssign | pipeAssign | caretAssign
  | andAssign | orAssign | nullishAssign
  | lessSlash
deriving Repr, DecidableEq, Inhabited

namespace Punct

/-- The spelling of a punctuator. -/
def text : Punct → String
  | lbrace => "\x7b" | rbrace => "\x7d" | lparen => "(" | rparen => ")"
  | lbracket => "[" | rbracket => "]"
  | semi => ";" | comma => "," | dot => "." | ellipsis => "..." | question => "?"
  | questionDot => "?." | colon => ":" | arrow => "=>" | atSign => "@" | hash => "#"
  | lt => "<" | gt => ">" | le => "<=" | ge => ">=" | eq2 => "==" | ne => "!="
  | eq3 => "===" | ne2 => "!=="
  | plus => "+" | minus => "-" | star => "*" | slash => "/" | percent => "%" | power => "**"
  | inc => "++" | dec => "--"
  | shl => "<<" | shr => ">>" | ushr => ">>>" | amp => "&" | pipe => "|" | caret => "^"
  | bang => "!" | tilde => "~" | and => "&&" | or => "||" | nullish => "??"
  | assign => "=" | plusAssign => "+=" | minusAssign => "-=" | starAssign => "*="
  | slashAssign => "/=" | percentAssign => "%=" | powerAssign => "**=" | shlAssign => "<<="
  | shrAssign => ">>=" | ushrAssign => ">>>=" | ampAssign => "&=" | pipeAssign => "|="
  | caretAssign => "^=" | andAssign => "&&=" | orAssign => "||=" | nullishAssign => "??="
  | lessSlash => "</"

/-- All punctuators but `</`, a longer one before every one that it starts
with. -/
def longestFirst : List Punct :=
  [ushrAssign,
   ellipsis, nullishAssign, eq3, shlAssign, ushr, shrAssign, ne2, powerAssign, andAssign, orAssign,
   questionDot, nullish, eq2, arrow, shl, le, shr, ge, ne, inc, plusAssign, dec, minusAssign,
   power, starAssign, slashAssign, percentAssign, and, ampAssign, or, pipeAssign, caretAssign,
   lbrace, rbrace, lparen, rparen, lbracket, rbracket, semi, comma, dot, question, colon, assign,
   atSign, hash, lt, gt, bang, plus, minus, star, slash, percent, amp, pipe, caret, tilde]

/-- The longest punctuator that `cs` starts with. `?.` before a digit is a
question mark, so that `a?.5:b` is a conditional. -/
def ofChars (cs : List Char) : Option Punct :=
  match longestFirst.find? (fun p => p.text.toList.isPrefixOf cs) with
  | some questionDot =>
    match cs.drop 2 with
    | c :: _ => some (if c.isDigit then question else questionDot)
    | [] => some questionDot
  | found => found

/-- The number of characters of a punctuator. -/
def width (p : Punct) : Nat := p.text.length

/-- The operators that stand between two operands. -/
def isBinary : Punct → Bool
  | lt | gt | le | ge | eq2 | ne | eq3 | ne2 | plus | minus | star | slash | percent | power
  | shl | shr | ushr | amp | pipe | caret | and | or | nullish => true
  | _ => false

/-- The operators that assign. -/
def isAssign : Punct → Bool
  | assign | plusAssign | minusAssign | starAssign | slashAssign | percentAssign | powerAssign
  | shlAssign | shrAssign | ushrAssign | ampAssign | pipeAssign | caretAssign
  | andAssign | orAssign | nullishAssign => true
  | _ => false

end Punct

end ConsoleStrip
