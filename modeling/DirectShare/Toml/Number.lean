import DirectShare.Toml.Text
import DirectShare.Toml.Basic

/-!
# Numbers, dates and truth values of TOML

A value that is neither quoted nor bracketed is one word. Digits of a number may be grouped by single
underscores.

`Toml.word?` is the value of a word, and `Toml.bare` reads a value that is a word, or a date and a
time with a blank between them.
-/

namespace DirectShare.Toml

/-! ### Numbers -/

/-- The digits of a number without the underscores, each of which must stand between digits. -/
def ungroup (isDigit : Char → Bool) : List Char → Option (List Char)
  | [] => none
  | [c] => if isDigit c then some [c] else none
  | c :: '_' :: cs => if isDigit c then (ungroup isDigit cs).map (c :: ·) else none
  | c :: cs => if isDigit c then (ungroup isDigit cs).map (c :: ·) else none

/-- The digits of a decimal number, which does not start with a superfluous zero. -/
def decimalDigits? (cs : List Char) : Option (List Char) := do
  let ds ← ungroup Char.isDigit cs
  if ds.head? = some '0' ∧ ds.length ≠ 1 then none else some ds

/-- A sign, and the characters after it. -/
def splitSign : List Char → Bool × List Char
  | '-' :: cs => (true, cs)
  | '+' :: cs => (false, cs)
  | cs => (false, cs)

/-- The size of the least whole number. -/
def bound : Nat := 0x8000000000000000

/-- The whole number with the given sign and size, if it fits into 64 bits. -/
def integerOf (negative : Bool) (n : Nat) : Option Value :=
  if negative then if n ≤ bound then some (.integer (-n)) else none
  else if n < bound then some (.integer n)
  else none

/-- The whole number that digits of a base stand for. -/
def based (base : Nat) (cs : List Char) : Option Value := do
  let ds ← ungroup (fun c => (hexValue? c).any (· < base)) cs
  integerOf false ((ds.filterMap hexValue?).foldl (fun n d => n * base + d) 0)

/-- The whole number that a word stands for. -/
def integer? : List Char → Option Value
  | '0' :: 'x' :: cs => based 16 cs
  | '0' :: 'o' :: cs => based 8 cs
  | '0' :: 'b' :: cs => based 2 cs
  | cs => do
    let (negative, cs) := splitSign cs
    integerOf negative (Nat.ofDigitChars 10 (← decimalDigits? cs) 0)

/-- The number `n` scaled by `10 ^ e`, rounded once. -/
def scaled (negative : Bool) (n : Nat) (e : Int) : Toml.Float :=
  let digits : Int := (Nat.toDigits 10 n).length
  if n = 0 ∨ digits + e < -400 then .finite (.zero negative)
  else if 400 < digits + e then .infinite negative
  else
    let x := match e with
      | .ofNat e => Binary64.ofNat (n * Nat.pow 10 e)
      | .negSucc e => Binary64.ofRatio n (Nat.pow 10 (e + 1))
    match x with
    | some x => .finite (x.withSign negative)
    | none => .infinite negative

/-- The exponent of a number, given by the characters after its digits. -/
def exponent? : List Char → Option Int
  | [] => some 0
  | c :: cs =>
    if c = 'e' ∨ c = 'E' then do
      let (negative, cs) := splitSign cs
      let n := Nat.ofDigitChars 10 (← ungroup Char.isDigit cs) 0
      return if negative then -n else n
    else none

/-- Whether a character may stand among the digits of a number. -/
def isGrouped (c : Char) : Bool := c.isDigit || c = '_'

/-- The binary number that a word stands for. A number beyond the largest is refused if it is
positive. -/
def float? (cs : List Char) : Option Value := do
  let (negative, cs) := splitSign cs
  if cs = ['i', 'n', 'f'] then return .float (.infinite negative)
  if cs = ['n', 'a', 'n'] then return .float .nan
  let whole ← decimalDigits? (cs.takeWhile isGrouped)
  let rest := cs.dropWhile isGrouped
  let (fraction, rest) ← match rest with
    | '.' :: cs => do pure (← ungroup Char.isDigit (cs.takeWhile isGrouped), cs.dropWhile isGrouped)
    | [] => none
    | cs => pure ([], cs)
  let x := scaled negative (Nat.ofDigitChars 10 (whole ++ fraction) 0) ((← exponent? rest) - fraction.length)
  if x = .infinite false then none else return .float x

/-! ### Dates and times -/

/-- The number of two digits, if it is not greater than a bound. -/
def twoDigits? (greatest : Nat) (a b : Char) : Option Nat :=
  if a.isDigit ∧ b.isDigit ∧ Nat.ofDigitChars 10 [a, b] 0 ≤ greatest then some (Nat.ofDigitChars 10 [a, b] 0)
  else none

/-- The number of days of a month. -/
def daysOf (year month : Nat) : Nat :=
  if month = 2 then if year % 4 = 0 ∧ (year % 100 ≠ 0 ∨ year % 400 = 0) then 29 else 28
  else if month = 4 ∨ month = 6 ∨ month = 9 ∨ month = 11 then 30
  else 31

/-- The characters after a date. -/
def afterDate? : List Char → Option (List Char)
  | y :: z :: y1 :: z1 :: '-' :: m :: n :: '-' :: d :: e :: cs =>
    if [y, z, y1, z1].all Char.isDigit then do
      let month ← twoDigits? 12 m n
      let day ← twoDigits? (daysOf (Nat.ofDigitChars 10 [y, z, y1, z1] 0) month) d e
      if month = 0 ∨ day = 0 then none else some cs
    else none
  | _ => none

/-- The characters after a time. -/
def afterTime? : List Char → Option (List Char)
  | h :: i :: ':' :: m :: n :: ':' :: s :: t :: cs => do
    let _ ← twoDigits? 23 h i
    let _ ← twoDigits? 59 m n
    let _ ← twoDigits? 60 s t
    match cs with
    | '.' :: cs => if (cs.takeWhile Char.isDigit) = [] then none else some (cs.dropWhile Char.isDigit)
    | cs => some cs
  | _ => none

/-- Whether characters are the distance of a time zone, or nothing. -/
def isZone : List Char → Bool
  | [] => true
  | [c] => c = 'Z' || c = 'z'
  | [sign, h, i, ':', m, n] =>
    (sign = '+' || sign = '-') && (twoDigits? 23 h i).isSome && (twoDigits? 59 m n).isSome
  | _ => false

/-- Whether characters are a time, which may have a time zone. -/
def isZonedTime (cs : List Char) : Bool := (afterTime? cs).any isZone

/-- Whether a word is a date or a time. -/
def isMoment (cs : List Char) : Bool :=
  match afterDate? cs with
  | some [] => true
  | some (c :: time) => (c = 'T' || c = 't') && isZonedTime time
  | none => afterTime? cs = some []

/-! ### Words -/

/-- The value of a word. -/
def word? (cs : List Char) : Option Value :=
  if cs = ['t', 'r', 'u', 'e'] then some (.bool true)
  else if cs = ['f', 'a', 'l', 's', 'e'] then some (.bool false)
  else if isMoment cs then some (.moment (String.ofList cs))
  else (float? cs).or (integer? cs)

/-- Whether a character may stand in a word. -/
def isWordChar (c : Char) : Bool := c.isAlphanum || c = '_' || c = '-' || c = '+' || c = '.' || c = ':'

/-- Reads a value that is a word, or a date and a time with a blank between them. -/
def bare : Reader Value := fun cs =>
  let w := cs.takeWhile isWordChar
  let rest := cs.dropWhile isWordChar
  let time := rest.tail.takeWhile isWordChar
  if rest.head? = some ' ' ∧ afterDate? w = some [] ∧ isZonedTime time then
    some (.moment (String.ofList (w ++ ' ' :: time)), rest.tail.dropWhile isWordChar)
  else (word? w).map fun v => (v, rest)

end DirectShare.Toml
