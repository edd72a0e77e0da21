import DirectShare.Decimal.Binary64

/-!
# Shortest decimal text of a binary number

The text of a number has the fewest decimal digits that read back to it, and of those the digits
nearest to it. Numbers whose decimal exponent lies between `-5` and `15` are written in positional
notation with at least one digit after the point, and all others with a signed exponent.

`Binary64.shortest` finds the digits and the power of ten that they are scaled by, and
`Binary64.text` lays them out.
-/

namespace DirectShare.Binary64

/-- The numbers that round to a given number: they lie between two bounds over one denominator. -/
structure RoundingRange where
  /-- The number itself. -/
  value : Nat
  /-- The lower bound. -/
  low : Nat
  /-- The upper bound. -/
  high : Nat
  /-- The common denominator. -/
  den : Nat
  /-- Whether the bounds themselves round to the number. -/
  closed : Bool

/-- The range of numbers that round to `x`, which lies half-way to its two neighbours. -/
def roundingRange (x : Binary64) : RoundingRange :=
  let narrow := x.significand = leastSignificand ∧ -1074 < x.exponent
  let (scale, den) : Nat × Nat :=
    match x.exponent with
    | .ofNat e => (Nat.pow 2 e, 4)
    | .negSucc e => (1, 4 * Nat.pow 2 (e + 1))
  { value := 4 * x.significand * scale
    low := (4 * x.significand - (if narrow then 1 else 2)) * scale
    high := (4 * x.significand + 2) * scale
    den := den
    closed := x.significand % 2 = 0 }

/-- Whether `n · 10 ^ e` lies in the range. -/
def RoundingRange.holds (r : RoundingRange) (n : Nat) (e : Int) : Bool :=
  let (a, d) := if 0 ≤ e then (n * Nat.pow 10 e.toNat * r.den, 1) else (n * r.den, Nat.pow 10 (-e).toNat)
  if r.closed then r.low * d ≤ a && a ≤ r.high * d else r.low * d < a && a < r.high * d

/-- The greatest `e` with `10 ^ e ≤ num / den`, for positive numbers. -/
def floorLog10 (num den : Nat) : Int :=
  let e : Int := (Nat.toDigits 10 num).length - (Nat.toDigits 10 den).length
  let reached := if 0 ≤ e then den * Nat.pow 10 e.toNat ≤ num else den ≤ num * Nat.pow 10 (-e).toNat
  if reached then e else e - 1

/-- The multiple of `10 ^ e` in the range that is nearest to its number: a multiple beside the number. -/
def RoundingRange.nearest? (r : RoundingRange) (e : Int) : Option Nat :=
  let (num, den) := if 0 ≤ e then (r.value, r.den * Nat.pow 10 e.toNat) else (r.value * Nat.pow 10 (-e).toNat, r.den)
  let below := num / den
  let rest := num % den
  let above := below + 1
  match r.holds below e, r.holds above e with
  | true, true =>
    if 2 * rest < den then some below
    else if den < 2 * rest then some above
    else some (below + below % 2)
  | true, false => some below
  | false, true => some above
  | false, false => none

/-- The digits without the zeros at the end, each of which moves into the power of ten. -/
def dropZeros (n : Nat) (e : Int) : Nat × Int :=
  if h : n ≠ 0 ∧ n % 10 = 0 then dropZeros (n / 10) (e + 1) else (n, e)
termination_by n
decreasing_by omega

/-- The fewest digits that read back to a number other than zero, with their power of ten. -/
def shortest (x : Binary64) : Nat × Int :=
  let r := x.roundingRange
  let top := floorLog10 r.value r.den
  let found := (List.range 17).findSome? fun (k : Nat) =>
    (r.nearest? (top - k)).map fun n => (n, top - (k : Int))
  match found with
  | some (n, e) => dropZeros n e
  | none => (0, 0)

/-- The text of digits scaled by a power of ten. -/
def layout (digits : List Char) (e : Int) : List Char :=
  let point := digits.length + e
  if 0 ≤ e ∧ point ≤ 16 then
    digits ++ List.replicate e.toNat '0' ++ ['.', '0']
  else if 0 < point ∧ point ≤ 16 then
    digits.take point.toNat ++ '.' :: digits.drop point.toNat
  else if -5 < point ∧ point ≤ 0 then
    '0' :: '.' :: (List.replicate (-point).toNat '0' ++ digits)
  else
    let power := point - 1
    let sign := if power < 0 then '-' else '+'
    let fraction := if digits.length = 1 then [] else '.' :: digits.drop 1
    digits.take 1 ++ fraction ++ 'e' :: sign :: Nat.toDigits 10 power.natAbs

/-- The decimal text of a number. -/
def text (x : Binary64) : String :=
  let size :=
    if x.significand = 0 then ['0', '.', '0']
    else
      let (n, e) := x.shortest
      layout (Nat.toDigits 10 n) e
  String.ofList (if x.negative then '-' :: size else size)

end DirectShare.Binary64
