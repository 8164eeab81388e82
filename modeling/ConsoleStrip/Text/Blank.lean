/-
Which characters separate words.

* `isBlank`: the Unicode `White_Space` property, used for the gaps
  between comments and code;
* `isLineEnd`: the four line terminators of the scanned language;
* `isTrivia`: what the scanner skips between tokens. It differs from
  `isBlank` at U+0085 (blank, but no trivia) and U+FEFF (trivia, but not
  blank).
-/

namespace ConsoleStrip

/-- A character of the Unicode `White_Space` property. -/
def isBlank (c : Char) : Bool :=
  let n := c.toNat
  (9 ≤ n && n ≤ 13) || n == 0x20 || n == 0x85 || n == 0xA0 || n == 0x1680
    || (0x2000 ≤ n && n ≤ 0x200A) || n == 0x2028 || n == 0x2029 || n == 0x202F
    || n == 0x205F || n == 0x3000

/-- Line feed, carriage return, line separator or paragraph separator. -/
def isLineEnd (c : Char) : Bool :=
  c == '\n' || c == '\r' || c == '\u2028' || c == '\u2029'

/-- A character that the scanner skips between two tokens. -/
def isTrivia (c : Char) : Bool :=
  (isBlank c && c.toNat != 0x85) || c == '\uFEFF'

/-- A blank that stays on its line, where only LF and CR end one. -/
def isInlineBlank (c : Char) : Bool :=
  isBlank c && c != '\n' && c != '\r'

end ConsoleStrip
