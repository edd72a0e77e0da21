import DirectShare.Bytes

/-!
# Base64

Three bytes are written as four letters of a 64-letter alphabet, and a last group of one or two
bytes is filled up with `=`. `Base64.decode` accepts the written form only: the padding must be
there, and the bits that a last group leaves over must be zero.

`Base64.encode` and `Base64.decode` go through groups of three bytes and of four letters.
-/

namespace DirectShare.Base64

/-- The letter for a number below 64. -/
def letter (n : Nat) : Char :=
  if n < 26 then Char.ofNat (65 + n)
  else if n < 52 then Char.ofNat (71 + n)
  else if n < 62 then Char.ofNat (n - 4)
  else if n = 62 then '+'
  else '/'

/-- The number that a letter stands for. -/
def value? (c : Char) : Option Nat :=
  if 'A' ≤ c ∧ c ≤ 'Z' then some (c.toNat - 65)
  else if 'a' ≤ c ∧ c ≤ 'z' then some (c.toNat - 71)
  else if '0' ≤ c ∧ c ≤ '9' then some (c.toNat + 4)
  else if c = '+' then some 62
  else if c = '/' then some 63
  else none

/-- The letters for a byte string. -/
def letters : Bytes → List Char
  | a :: b :: c :: rest =>
    letter (a.toNat / 4) :: letter (a.toNat % 4 * 16 + b.toNat / 16)
      :: letter (b.toNat % 16 * 4 + c.toNat / 64) :: letter (c.toNat % 64) :: letters rest
  | [a, b] =>
    [letter (a.toNat / 4), letter (a.toNat % 4 * 16 + b.toNat / 16), letter (b.toNat % 16 * 4), '=']
  | [a] => [letter (a.toNat / 4), letter (a.toNat % 4 * 16), '=', '=']
  | [] => []

/-- The byte with the given number. -/
def byte (n : Nat) : UInt8 := UInt8.ofNat n

/-- The bytes that groups of four letters stand for. -/
def bytes? : List Char → Option Bytes
  | [] => some []
  | [w, x, '=', '='] => do
    let w ← value? w
    let x ← value? x
    if x % 16 = 0 then some [byte (w * 4 + x / 16)] else none
  | [w, x, y, '='] => do
    let w ← value? w
    let x ← value? x
    let y ← value? y
    if y % 4 = 0 then some [byte (w * 4 + x / 16), byte (x % 16 * 16 + y / 4)] else none
  | w :: x :: y :: z :: rest => do
    let w ← value? w
    let x ← value? x
    let y ← value? y
    let z ← value? z
    let tail ← bytes? rest
    some (byte (w * 4 + x / 16) :: byte (x % 16 * 16 + y / 4) :: byte (y % 4 * 64 + z) :: tail)
  | _ => none

/-- The text for a byte string. -/
def encode (bs : Bytes) : String := String.ofList (letters bs)

/-- The bytes that a text stands for, if it is the text for some bytes. -/
def decode (s : String) : Option Bytes := bytes? s.toList

example : encode [1, 2, 3] = "AQID" := by decide +kernel

example : decode "AQI=" = some [1, 2] := by decide +kernel

end DirectShare.Base64
