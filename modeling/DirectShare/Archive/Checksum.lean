import DirectShare.Bytes

/-!
# Checksums

An archive holds the CRC-32 of each file: the remainder of its bits, as a polynomial over two
elements, on division by a fixed polynomial of degree 32. Bits are taken from the least significant
bit of each byte, so the polynomial appears with its bits reversed.

The remainder is computed bit by bit by `checksum`, without a table.
-/

namespace DirectShare.Archive

/-- The divisor, with the coefficient of the highest power left out. -/
def divisor : UInt32 := 0xEDB88320

/-- Divides the given number of bits further. -/
def divideBits : Nat → UInt32 → UInt32
  | 0, r => r
  | n + 1, r => divideBits n (if r &&& 1 = 1 then (r >>> 1) ^^^ divisor else r >>> 1)

/-- Takes a byte into the remainder. -/
def divideByte (r : UInt32) (b : UInt8) : UInt32 := divideBits 8 (r ^^^ b.toUInt32)

/-- The checksum of a byte string. -/
def checksum (bs : Bytes) : UInt32 := bs.foldl divideByte 0xFFFFFFFF ^^^ 0xFFFFFFFF

/-- The checksum of no bytes is zero. -/
@[simp] theorem checksum_nil : checksum [] = 0 := by
  decide

end DirectShare.Archive
