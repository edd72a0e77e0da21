import DirectShare.Json.Basic

/-!
# Number literals

A literal without fraction and exponent is a whole number if 64 bits hold it. Any other literal is a
binary number: as many leading digits as 64 bits hold are taken as a whole number, which is then
scaled by the power of ten that the point, the exponent and the digits left out ask for.

A `Json.Literal` has the parts of a literal, and `Json.Literal.value?` is the number that it stands
for, unless that is beyond the largest.
-/

namespace DirectShare.Json

/-- The parts of a number literal. -/
structure Literal where
  /-- Whether a minus sign stands before the number. -/
  negative : Bool
  /-- The digits before the point. -/
  whole : List Nat
  /-- The digits after the point, if there is one. -/
  fraction : Option (List Nat)
  /-- Whether the exponent is negative, and its digits, if there is one. -/
  exponent : Option (Bool × List Nat)
deriving DecidableEq, Repr

/-- The greatest number that 64 bits hold. -/
def maxWord : Nat := UInt64.size - 1

/-- Appends digits to a number while 64 bits hold it, and returns the digits left over. -/
def takeDigits (n : Nat) : List Nat → Nat × List Nat
  | [] => (n, [])
  | d :: ds => if n * 10 + d ≤ maxWord then takeDigits (n * 10 + d) ds else (n, d :: ds)

/-- The greatest exponent that is told from an endless one. -/
def maxExponent : Nat := 0x7FFFFFFF

/-- The number with the given digits. -/
def digitsValue (ds : List Nat) : Nat := ds.foldl (fun n d => n * 10 + d) 0

/-- The binary number `± n · 10 ^ e`, or `none` beyond the largest one. -/
def scaled (negative : Bool) (n : Nat) (e : Int) : Option Number :=
  (Binary64.ofDecimal n e).map fun x => .double (x.withSign negative)

/-- The number that a literal stands for, or `none` beyond the largest binary number. -/
def Literal.value? (l : Literal) : Option Number :=
  let (n, dropped) := takeDigits 0 l.whole
  if l.fraction = none ∧ l.exponent = none ∧ dropped = [] then
    if !l.negative then some (.integer n)
    else if 0 < n ∧ n ≤ 0x8000000000000000 then some (.integer (-n))
    else scaled true n 0
  else
    let fraction := l.fraction.getD []
    let (n, rest) := takeDigits n fraction
    let start : Int := dropped.length - (fraction.length - rest.length : Nat)
    match l.exponent with
    | none => scaled l.negative n start
    | some (negative, digits) =>
      let e := digitsValue digits
      if e ≤ maxExponent then scaled l.negative n (if negative then start - e else start + e)
      else if n ≠ 0 ∧ !negative then none
      else some (.double (Binary64.zero l.negative))

end DirectShare.Json
