/-
Numbers with 53 bits.

* `Binary64`: a number `mantissa * 2 ^ exponent`, its mantissa below `2 ^ 53`;
* `Binary64.ofRatio`: the nearest such number to a ratio, a tie going to the
  even mantissa;
* `Binary64.ofDecimal`: the value that is read for a decimal, by one product
  or quotient with a power of ten.
-/

namespace ConsoleStrip

/-- A number `mantissa * 2 ^ exponent`. -/
structure Binary64 where
  mantissa : Nat
  exponent : Int
deriving Repr, DecidableEq, Inhabited

namespace Binary64

/-- The bits of a mantissa. -/
def bits : Nat := 53

/-- The least exponent. -/
def minExponent : Int := -1074

/-- The greatest exponent. -/
def maxExponent : Int := 971

/-- Zero. -/
def zero : Binary64 := ⟨0, minExponent⟩

/-- The quotient of two numbers, rounded to the nearest, a tie to the even. -/
def divRound (num den : Nat) : Nat :=
  let q := num / den
  let r := num % den
  if 2 * r < den then q else if den < 2 * r then q + 1 else q + q % 2

/-- A ratio divided by a power of two, rounded. -/
def scaled (num den : Nat) (exponent : Int) : Nat :=
  if exponent < 0 then divRound (num * Nat.pow 2 exponent.natAbs) den
  else divRound num (den * Nat.pow 2 exponent.natAbs)

/-- The exponent at which a ratio has all bits of a mantissa before rounding. -/
def exponentOf (num den : Nat) : Int :=
  let guess : Int := (Nat.log2 num : Int) - Nat.log2 den - (bits - 1)
  let floorAt (e : Int) : Nat :=
    if e < 0 then num * Nat.pow 2 e.natAbs / den else num / (den * Nat.pow 2 e.natAbs)
  let e := if floorAt guess < Nat.pow 2 (bits - 1) then guess - 1 else guess
  if e < minExponent then minExponent else e

/-- The nearest number to a ratio; none if it is too large. -/
def ofRatio (num den : Nat) : Option Binary64 :=
  if num == 0 then some zero
  else
    let e := exponentOf num den
    let m := scaled num den e
    let x : Binary64 := if m < Nat.pow 2 bits then ⟨m, e⟩ else ⟨m / 2, e + 1⟩
    if maxExponent < x.exponent then none else some x

/-- The number is zero. -/
def isZero (x : Binary64) : Bool := x.mantissa == 0

/-- The number as a ratio. -/
def ratio (x : Binary64) : Nat × Nat :=
  if x.exponent < 0 then (x.mantissa, Nat.pow 2 x.exponent.natAbs)
  else (x.mantissa * Nat.pow 2 x.exponent.natAbs, 1)

/-- A product, rounded. -/
def mul (x y : Binary64) : Option Binary64 :=
  let (a, b) := x.ratio
  let (c, d) := y.ratio
  ofRatio (a * c) (b * d)

/-- A quotient, rounded. -/
def div (x y : Binary64) : Option Binary64 :=
  let (a, b) := x.ratio
  let (c, d) := y.ratio
  ofRatio (a * d) (b * c)

/-- The greatest power of ten that is a number. -/
def maxPower : Nat := 308

/-- A power of ten, rounded. -/
def power10 (n : Nat) : Option Binary64 := ofRatio (Nat.pow 10 n) 1

/-- Divides by `10 ^ 308` while the exponent of ten is below `-308`. -/
def shrink (x : Binary64) : (fuel : Nat) → (exponent : Int) → Option (Binary64 × Int)
  | 0, e => some (x, e)
  | fuel + 1, e =>
    if e < -(maxPower : Int) && !x.isZero then do
      let p ← power10 maxPower
      let y ← x.div p
      shrink y fuel (e + maxPower)
    else some (x, e)

/-- The value that is read for `significand * 10 ^ exponent`; none if it is
too large. Two roundings take place: that of the significand and that of the
product or quotient. -/
def ofDecimal (significand : Nat) (exponent : Int) : Option Binary64 := do
  let x ← ofRatio significand 1
  if x.isZero then return x
  if exponent < 0 then
    let (y, e) ← shrink x 4 exponent
    if y.isZero then return y
    y.div (← power10 e.natAbs)
  else if exponent.natAbs ≤ maxPower then x.mul (← power10 exponent.natAbs)
  else none

end Binary64

end ConsoleStrip
