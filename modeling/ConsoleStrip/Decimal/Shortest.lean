/-
The shortest decimal that reads back.

* `Binary64.shortest`: the digits and the exponent of the decimal with the
  fewest digits that lies nearer to a number than to its neighbours, and of
  those the nearest one;
* `Binary64.text`: a number in positional notation while its point is among
  its first sixteen digits or at most five zeros follow it, and with an
  exponent otherwise.
-/
import ConsoleStrip.Decimal.Binary64

namespace ConsoleStrip

namespace Binary64

/-- A decimal `digits * 10 ^ exponent`. -/
structure Decimal where
  digits : Nat
  exponent : Int
deriving Repr, DecidableEq, Inhabited

namespace Decimal

/-- A decimal as a ratio. -/
def ratio (d : Decimal) : Nat × Nat :=
  if d.exponent < 0 then (d.digits, Nat.pow 10 d.exponent.natAbs)
  else (d.digits * Nat.pow 10 d.exponent.natAbs, 1)

end Decimal

/-- A ratio is less than another. -/
def ratioLt (a b : Nat × Nat) : Bool := a.1 * b.2 < b.1 * a.2

/-- The ends of the interval of what reads back as a number, as ratios. -/
def interval (x : Binary64) : (Nat × Nat) × (Nat × Nat) :=
  let atPowerOfTwo := x.mantissa == Nat.pow 2 (bits - 1) && minExponent < x.exponent
  let low : Binary64 :=
    if atPowerOfTwo then ⟨4 * x.mantissa - 1, x.exponent - 2⟩
    else ⟨2 * x.mantissa - 1, x.exponent - 1⟩
  let high : Binary64 := ⟨2 * x.mantissa + 1, x.exponent - 1⟩
  (low.ratio, high.ratio)

/-- A decimal reads back as a number. The ends of the interval do if the
mantissa is even. -/
def readsBack (x : Binary64) (d : Decimal) : Bool :=
  let (low, high) := x.interval
  if x.mantissa % 2 == 0 then !ratioLt d.ratio low && !ratioLt high d.ratio
  else ratioLt low d.ratio && ratioLt d.ratio high

/-- The number of digits before the point of a ratio that is at least one, and
minus the number of zeros after it of one that is less. -/
def pointOf (num den : Nat) : (fuel : Nat) → Int
  | 0 => 0
  | fuel + 1 =>
    if num < den then pointOf (num * 10) den fuel - 1
    else (Nat.toDigits 10 (num / den)).length

/-- The decimals with `n` digits just below and above a number. -/
def neighbours (x : Binary64) (n : Nat) : Decimal × Decimal :=
  let (num, den) := x.ratio
  let e := pointOf num den 400 - n
  let d := if e < 0 then num * Nat.pow 10 e.natAbs / den else num / (den * Nat.pow 10 e.natAbs)
  (⟨d, e⟩, ⟨d + 1, e⟩)

/-- The nearer of two decimals around a number, the lower one being even in a
tie. -/
def nearer (x : Binary64) (low high : Decimal) : Decimal :=
  let (num, den) := x.ratio
  let twice := (2 * num, den)
  let sum : Nat × Nat :=
    (low.ratio.1 * high.ratio.2 + high.ratio.1 * low.ratio.2, low.ratio.2 * high.ratio.2)
  if ratioLt twice sum then low
  else if ratioLt sum twice then high
  else if low.digits % 2 == 0 then low else high

/-- The decimal with the fewest digits, from `n` on, that reads back. -/
def shortestFrom (x : Binary64) : (fuel n : Nat) → Decimal
  | 0, n => (neighbours x n).1
  | fuel + 1, n =>
    let (low, high) := neighbours x n
    match readsBack x low, readsBack x high with
    | true, true => nearer x low high
    | true, false => low
    | false, true => high
    | false, false => shortestFrom x fuel (n + 1)

/-- Drops zeros at the end of the digits. -/
def trimmed : (fuel : Nat) → Decimal → Decimal
  | 0, d => d
  | fuel + 1, d =>
    if d.digits % 10 == 0 && d.digits != 0 then trimmed fuel ⟨d.digits / 10, d.exponent + 1⟩ else d

/-- The shortest decimal that reads back. -/
def shortest (x : Binary64) : Decimal :=
  if x.isZero then ⟨0, 0⟩ else trimmed 20 (shortestFrom x 17 1)

/-- The text of a number. -/
def text (x : Binary64) : String :=
  if x.isZero then "0.0"
  else
    let d := x.shortest
    let digits := toString d.digits
    let point : Int := digits.length + d.exponent
    let zeros (n : Nat) : String := String.ofList (List.replicate n '0')
    let cut (n : Nat) : String × String :=
      (String.ofList (digits.toList.take n), String.ofList (digits.toList.drop n))
    if 0 ≤ d.exponent && point ≤ 16 then digits ++ zeros d.exponent.natAbs ++ ".0"
    else if 0 < point && point ≤ 16 then
      let (whole, fraction) := cut point.natAbs
      whole ++ "." ++ fraction
    else if -5 < point && point ≤ 0 then "0." ++ zeros point.natAbs ++ digits
    else
      let (first, rest) := cut 1
      let exponent := toString (point - 1)
      if rest.isEmpty then first ++ "e" ++ exponent else first ++ "." ++ rest ++ "e" ++ exponent

end Binary64

end ConsoleStrip
