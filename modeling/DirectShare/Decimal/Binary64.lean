/-!
# Finite binary numbers of 64 bits

A `Binary64` is `± significand · 2 ^ exponent`. Every operation is exact arithmetic on whole numbers
followed by one rounding to the nearest such number, a tie going to the even significand, so the
results are those of the usual hardware format.

`Binary64.ofRatio` rounds a quotient, if it is not beyond the largest number. `Binary64.mul` and
`Binary64.div` are the rounded product and quotient, and `Binary64.ofDecimal` scales a whole number
by a power of ten, rounding after each step.
-/

namespace DirectShare

/-- The finite binary number `± significand · 2 ^ exponent`. -/
structure Binary64 where
  /-- Whether the number stands below zero, or is the negative zero. -/
  negative : Bool
  /-- The digits, below `2 ^ 53`. -/
  significand : Nat
  /-- The power of two that the digits are scaled by, from `-1074` to `971`. -/
  exponent : Int
deriving DecidableEq, Repr

namespace Binary64

/-- The least significand of a number whose digits are all used. -/
def leastSignificand : Nat := 0x10000000000000

/-- Zero, with either sign. -/
def zero (negative : Bool) : Binary64 := ⟨negative, 0, -1074⟩

/-- The same number with the given sign. -/
def withSign (x : Binary64) (negative : Bool) : Binary64 := { x with negative }

/-- The quotient rounded to the nearest whole number, a tie going to the even one. -/
def roundDiv (num den : Nat) : Nat :=
  let q := num / den
  let r := num % den
  if 2 * r < den then q
  else if den < 2 * r then q + 1
  else q + q % 2

/-- The quotient `num / (den · 2 ^ e)`, rounded. -/
def roundScaled (num den : Nat) : Int → Nat
  | .ofNat e => roundDiv num (den * Nat.pow 2 e)
  | .negSucc e => roundDiv (num * Nat.pow 2 (e + 1)) den

/-- The greatest `e` with `2 ^ e ≤ num / den`, for positive numbers. -/
def floorLog2 (num den : Nat) : Int :=
  let e : Int := num.log2 - den.log2
  let reached := if 0 ≤ e then den * Nat.pow 2 e.toNat ≤ num else den ≤ num * Nat.pow 2 (-e).toNat
  if reached then e else e - 1

/-- The nearest number to `num / den`, or `none` beyond the largest one. -/
def ofRatio (num den : Nat) : Option Binary64 :=
  if num = 0 then some (zero false)
  else
    let e := max (floorLog2 num den - 52) (-1074)
    let m := roundScaled num den e
    let (m, e) := if m = 2 * leastSignificand then (leastSignificand, e + 1) else (m, e)
    if 971 < e then none else some ⟨false, m, e⟩

/-- The nearest number to a whole number, or `none` beyond the largest one. -/
def ofNat (n : Nat) : Option Binary64 := ofRatio n 1

/-- The size of a number as a quotient of whole numbers. -/
def ratio (x : Binary64) : Nat × Nat :=
  match x.exponent with
  | .ofNat e => (x.significand * Nat.pow 2 e, 1)
  | .negSucc e => (x.significand, Nat.pow 2 (e + 1))

/-- The rounded product of the sizes. -/
def mul (x y : Binary64) : Option Binary64 :=
  ofRatio (x.ratio.1 * y.ratio.1) (x.ratio.2 * y.ratio.2)

/-- The rounded quotient of the sizes. -/
def div (x y : Binary64) : Option Binary64 :=
  ofRatio (x.ratio.1 * y.ratio.2) (x.ratio.2 * y.ratio.1)

/-- The nearest number to `10 ^ n`. -/
def powTen (n : Nat) : Option Binary64 := ofNat (Nat.pow 10 n)

/-- The greatest power of ten that is such a number. -/
def greatestPower : Nat := 308

/-- Divides by the greatest power of ten, `count` times over, and stops at zero. -/
def divGreatest (x : Binary64) : (count : Nat) → Option Binary64
  | 0 => some x
  | count + 1 =>
    if x.significand = 0 then some x
    else ((powTen greatestPower).bind x.div).bind fun y => y.divGreatest count

/-- Divides by `10 ^ n` for positive `n`, by the greatest power first as often as it takes. -/
def divPowTen (x : Binary64) (n : Nat) : Option Binary64 :=
  let count := (n - 1) / greatestPower
  (x.divGreatest count).bind fun y => (powTen (n - greatestPower * count)).bind y.div

/--
The whole number `n` scaled by `10 ^ e`: `n` is rounded, and so is the result of each scaling step.
Answers `none` beyond the largest number.
-/
def ofDecimal (n : Nat) (e : Int) : Option Binary64 :=
  (ofNat n).bind fun x =>
    match e with
    | .ofNat e =>
      if e ≤ greatestPower then (powTen e).bind x.mul
      else if x.significand = 0 then some x
      else none
    | .negSucc e => x.divPowTen (e + 1)

end Binary64

end DirectShare
