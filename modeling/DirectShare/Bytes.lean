/-!
# Byte strings

Frames, keys and files are lists of bytes. Numbers enter them in base 256, with the most significant
byte first on the wire and the least significant byte first in archives.

`Bytes.ofNatBE` and `Bytes.ofNatLE` write a number in a fixed count of bytes, and `Bytes.toNatBE`
and `Bytes.toNatLE` give the number that bytes stand for.
-/

namespace DirectShare

/-- A byte string. -/
abbrev Bytes := List UInt8

namespace Bytes

/-- The number that the bytes stand for, least significant byte first. -/
def toNatLE : Bytes → Nat
  | [] => 0
  | b :: bs => b.toNat + 256 * toNatLE bs

/-- The number that the bytes stand for, most significant byte first. -/
def toNatBE (bs : Bytes) : Nat := toNatLE bs.reverse

/-- The low `width` bytes of a number, least significant byte first. -/
def ofNatLE : (width : Nat) → Nat → Bytes
  | 0, _ => []
  | width + 1, n => UInt8.ofNat n :: ofNatLE width (n / 256)

/-- The low `width` bytes of a number, most significant byte first. -/
def ofNatBE (width n : Nat) : Bytes := (ofNatLE width n).reverse

/-- The bytewise exclusive or, as long as the shorter of the two. -/
def xor (as bs : Bytes) : Bytes := List.zipWith (· ^^^ ·) as bs

/-- A number is written in as many bytes as are asked for, the least significant first. -/
@[simp] theorem length_ofNatLE (width n : Nat) : (ofNatLE width n).length = width := by
  induction width generalizing n with
  | zero => rfl
  | succ width ih => simp [ofNatLE, ih]

/-- A number is written in as many bytes as are asked for, the most significant first. -/
@[simp] theorem length_ofNatBE (width n : Nat) : (ofNatBE width n).length = width := by
  simp [ofNatBE]

/-- Reading the low bytes of a number gives its remainder. -/
theorem toNatLE_ofNatLE (width n : Nat) : toNatLE (ofNatLE width n) = n % Nat.pow 256 width := by
  induction width generalizing n with
  | zero => simp [ofNatLE, toNatLE, Nat.mod_one]
  | succ width ih =>
    have hpow : Nat.pow 256 (width + 1) = 256 * Nat.pow 256 width := Nat.mul_comm _ _
    simp only [ofNatLE, toNatLE, ih, UInt8.toNat_ofNat', Nat.reducePow]
    rw [hpow, Nat.mod_mul]

/-- The bytes of a number stand for what is left of it in their width. -/
theorem toNatBE_ofNatBE (width n : Nat) : toNatBE (ofNatBE width n) = n % Nat.pow 256 width := by
  simp [toNatBE, ofNatBE, toNatLE_ofNatLE]

end Bytes

end DirectShare
