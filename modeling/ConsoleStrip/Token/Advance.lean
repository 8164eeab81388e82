/-
No token ends before it starts.

* `Scan.le_tokenIn` and its like: each way to read a token ends where it
  starts or later;
* `Scanner`: a way to read a token, with that guarantee.
-/
import ConsoleStrip.Token.Scan

namespace ConsoleStrip

namespace Scan

/-! ### Escapes -/

theorem le_hexEnd {src : Source} {count fuel pos stop : Nat}
    (h : hexEnd src count fuel pos = .ok stop) : pos ≤ stop := by
  fun_induction hexEnd src count fuel pos <;> grind

theorem le_fixedHex {src : Source} {count pos value stop : Nat}
    (h : fixedHex src count pos = .ok (value, stop)) : pos ≤ stop := by
  unfold fixedHex at h
  cases he : hexEnd src count (src.size + 1 - pos) pos with
  | error e => simp [he, bind, Except.bind] at h
  | ok s =>
    simp only [he, bind, Except.bind, pure, Except.pure, Except.ok.injEq, Prod.mk.injEq] at h
    exact h.2 ▸ le_hexEnd he

theorem le_unicodeEscape {src : Source} {pos value stop : Nat}
    (h : unicodeEscape src pos = .ok (value, stop)) : pos ≤ stop := by
  unfold unicodeEscape at h
  have hskip := src.le_skipWhile (isDigitOrSeparator isHex) (pos + 1)
  split at h
  · grind
  · split at h
    · next r hr =>
      obtain ⟨v, s⟩ := r
      simp only [Except.ok.injEq, Prod.mk.injEq] at h
      exact h.2 ▸ le_fixedHex hr
    · simp at h

/-- An escape takes its backslash at least. -/
theorem lt_escape (src : Source) (inTemplate : Bool) (pos : Nat) :
    pos < (escape src inTemplate pos).1 := by
  unfold escape
  split
  · exact Nat.lt_succ_self pos
  · split
    · next h => exact Nat.lt_of_lt_of_le (by omega) (le_fixedHex h)
    · show pos < pos + 2; omega
  · split
    · next h => exact Nat.lt_of_lt_of_le (by omega) (le_unicodeEscape h)
    · show pos < pos + 2; omega
  · show pos < if src.hasAt (pos + 2) '\n' then pos + 3 else pos + 2
    split <;> omega
  · dsimp only
    split
    · show pos < pos + 2; omega
    · split
      · show pos < pos + 2; omega
      · show pos < pos + 2; omega

/-! ### Words and numbers -/

theorem le_wordFrom {src : Source} {fuel pos stop : Nat} {w v : WordSoFar}
    (h : wordFrom src fuel pos w = .ok (v, stop)) : pos ≤ stop := by
  fun_induction wordFrom src fuel pos w with
  | case3 fuel pos w hc hu n s he c faults ih =>
    exact Nat.le_trans (Nat.le_trans (by omega) (le_unicodeEscape he)) (ih h)
  | _ => grind

theorem le_word (src : Source) (strict : Bool) (pos : Nat) :
    pos ≤ (word src strict pos).stop := by
  unfold word
  split
  · exact Nat.le_succ pos
  · next w stop h =>
    have hstop := le_wordFrom h
    dsimp only
    split <;> split <;> exact hstop

theorem stop_closeNumber (src : Source) (lo stop : Nat) (faults : List Fault) :
    (closeNumber src lo stop faults).stop = stop := by
  unfold closeNumber
  split <;> rfl

theorem le_radixNumber (src : Source) (pos : Nat) (digit : Char → Bool) (missing : Cause) :
    pos ≤ (radixNumber src pos digit missing).stop := by
  have hskip := src.le_skipWhile (isDigitOrSeparator digit) (pos + 2)
  unfold radixNumber
  dsimp only
  split
  · exact Nat.le_add_right pos 2
  · split
    · dsimp only; omega
    · rw [stop_closeNumber]; omega

theorem le_exponent {src : Source} {pos stop : Nat} {faults : List Fault}
    (h : exponent src pos = .ok (stop, faults)) : pos ≤ stop := by
  have h1 := src.le_skipWhile (isDigitOrSeparator Char.isDigit) (pos + 1)
  have h2 := src.le_skipWhile (isDigitOrSeparator Char.isDigit) (pos + 2)
  unfold exponent at h
  grind

theorem le_exponent_fault {src : Source} {pos : Nat} {fault : Fault}
    (h : exponent src pos = .error fault) : pos ≤ fault.span.lo := by
  unfold exponent at h
  grind

theorem le_decimalNumber (src : Source) (pos : Nat) : pos ≤ (decimalNumber src pos).stop := by
  have hwhole := src.le_skipWhile (isDigitOrSeparator Char.isDigit) pos
  have hfraction := src.le_skipWhile (isDigitOrSeparator Char.isDigit)
    (src.skipWhile (isDigitOrSeparator Char.isDigit) pos + 1)
  unfold decimalNumber
  dsimp only
  split
  · dsimp only; omega
  · split
    · rw [stop_closeNumber]; exact hwhole
    · split
      · next h =>
        have hexp := le_exponent_fault h
        dsimp only
        split at hexp <;> omega
      · next h =>
        have hexp := le_exponent h
        rw [stop_closeNumber]
        split at hexp <;> omega

theorem le_number (src : Source) (pos : Nat) : pos ≤ (number src pos).stop := by
  unfold number
  split
  · split
    · exact le_radixNumber ..
    · exact le_radixNumber ..
    · exact le_radixNumber ..
    · exact le_radixNumber ..
    · exact le_radixNumber ..
    · exact le_radixNumber ..
    · exact le_decimalNumber src pos
  · exact le_decimalNumber src pos

/-! ### Strings, templates and regular expressions -/

theorem le_stringFrom (src : Source) (quote : Char) (start fuel pos : Nat) (faults : List Fault) :
    pos ≤ (stringFrom src quote start fuel pos faults).stop := by
  fun_induction stringFrom src quote start fuel pos faults with
  | case3 | case4 | case5 => grind [lt_escape, broken]
  | _ => grind [openString]

theorem le_templateFrom (src : Source) (start lo fuel pos : Nat) (fault : Option Fault) :
    pos ≤ (templateFrom src start lo fuel pos fault).stop := by
  fun_induction templateFrom src start lo fuel pos fault with
  | case4 | case5 => grind [lt_escape]
  | _ => grind [broken]

theorem le_templatePiece (src : Source) (pos : Nat) : pos ≤ (templatePiece src pos).stop :=
  Nat.le_trans (Nat.le_succ pos) (le_templateFrom ..)

theorem le_regexBody {src : Source} {fuel pos close : Nat} {inClass : Bool}
    (h : regexBody src fuel pos inClass = some close) : pos ≤ close := by
  fun_induction regexBody src fuel pos inClass <;> grind

theorem le_regex (src : Source) (pos : Nat) : pos ≤ (regex src pos).stop := by
  unfold regex
  split
  · exact Nat.le_succ pos
  · next close h =>
    have hclose := le_regexBody h
    have hskip := src.le_skipWhile isIdentPart (close + 1)
    dsimp only
    omega

/-! ### Markup -/

theorem le_markupText (src : Source) (pos : Nat) : pos ≤ (markupText src pos).stop :=
  src.le_skipWhile _ pos

theorem le_markupName (src : Source) (pos : Nat) : pos ≤ (markupName src pos).stop :=
  src.le_skipWhile _ pos

theorem le_markupString (src : Source) (pos : Nat) (quote : Char) :
    pos ≤ (markupString src pos quote).stop := by
  have hskip := src.le_skipWhile (· != quote) (pos + 1)
  unfold markupString
  dsimp only
  split
  · dsimp only; omega
  · show pos ≤ src.skipWhile (· != quote) (pos + 1)
    omega

/-! ### All tokens -/

theorem le_tokenIn (strict : Bool) (src : Source) (pos : Nat) :
    pos ≤ (tokenIn strict src pos).stop := by
  unfold tokenIn
  split
  · exact Nat.le_refl pos
  · split
    · exact le_word src strict pos
    · split
      · exact le_number src pos
      · split
        · exact Nat.le_trans (Nat.le_succ pos) (le_stringFrom ..)
        · split
          · exact le_templatePiece src pos
          · split
            · exact Nat.le_add_right ..
            · exact Nat.le_succ pos

theorem le_attributeToken (src : Source) (pos : Nat) : pos ≤ (attributeToken src pos).stop := by
  unfold attributeToken
  split
  · exact le_markupString ..
  · exact le_markupString ..
  · exact le_tokenIn true src pos

end Scan

/-- A way to read a token, which never goes back. -/
structure Scanner where
  read : Source → Nat → Scanned
  le_stop : ∀ src pos, pos ≤ (read src pos).stop

namespace Scanner

/-- Reads the token of a position. -/
def tokenIn (strict : Bool) : Scanner := ⟨Scan.tokenIn strict, Scan.le_tokenIn strict⟩

/-- Reads a token of strict code. -/
def token : Scanner := ⟨Scan.token, Scan.le_tokenIn true⟩

/-- Reads a token where a quote opens an attribute's string. -/
def attributeToken : Scanner := ⟨Scan.attributeToken, Scan.le_attributeToken⟩

/-- Reads a regular expression. -/
def regex : Scanner := ⟨Scan.regex, Scan.le_regex⟩

/-- Reads a piece of a template. -/
def templatePiece : Scanner := ⟨Scan.templatePiece, Scan.le_templatePiece⟩

/-- Reads a name in markup. -/
def markupName : Scanner := ⟨Scan.markupName, Scan.le_markupName⟩

/-- Reads the punctuator `p`, which is known to stand there. -/
def punct (p : Punct) : Scanner :=
  ⟨fun _ lo => ⟨.punct p, lo + p.width, []⟩, fun _ lo => Nat.le_add_right lo p.width⟩

end Scanner

end ConsoleStrip
