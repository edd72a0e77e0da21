import DirectShare.Bytes

/-!
# Unpacking a stream of bits

A deflated file is a stream of bits, taken from the least significant bit of each byte, that tells
step by step which bytes to write. The bytes arrive in chunks and leave through a window. What was
written before the last chunk arrived, and before the window was last emptied, is settled: it is not
lost if the stream turns out to be corrupt.

The steps are a state monad, `Unpacker`. `Unpacker.bit`, `Unpacker.number` and `Unpacker.align` read
from the stream; `Unpacker.write` and `Unpacker.copy` write bytes.
-/

namespace DirectShare.Archive.Deflate

/-- Why unpacking stops early. -/
inductive Fault where
  /-- The stream ends in the middle. -/
  | cut
  /-- The stream has no meaning. -/
  | corrupt
deriving DecidableEq, Repr

/-- A stream in the middle of unpacking. -/
structure Stream where
  /-- The bits that are left. -/
  bits : List Bool
  /-- The number of bits that were read. -/
  used : Nat := 0
  /-- The bytes that were written. -/
  output : Array UInt8 := #[]
  /-- The number of bytes that are settled. -/
  settled : Nat := 0

/-- The bits of a byte string. -/
def bitsOf (bs : Bytes) : List Bool := bs.flatMap fun b => (List.range 8).map b.toNat.testBit

/-- The number of bits in which the stream arrives. -/
def chunk : Nat := 8192 * 8

/-- The number of bytes that the window holds. -/
def window : Nat := 32768

/-- Steps of unpacking, which keep what was written where they stop. -/
abbrev Unpacker := EStateM Fault Stream

namespace Unpacker

/-- Reads a bit. -/
def bit : Unpacker Bool := fun s =>
  match s.bits with
  | [] => .error .cut s
  | b :: rest =>
    let settled := if s.used % chunk = 0 then s.output.size else s.settled
    .ok b { s with bits := rest, used := s.used + 1, settled }

/-- Reads a number of the given number of bits, least significant bit first. -/
def number : Nat → Unpacker Nat
  | 0 => return 0
  | n + 1 => do
    let b ← bit
    return b.toNat + 2 * (← number n)

/-- Steps over the rest of a byte. -/
def align : Unpacker Unit := do
  let s ← get
  discard (number ((8 - s.used % 8) % 8))

/-- Writes a byte. -/
def write (b : UInt8) : Unpacker Unit := modify fun s =>
  let settled := if s.output.size % window = 0 then s.output.size else s.settled
  { s with output := s.output.push b, settled }

/-- Writes again the given number of bytes from the given distance back; before the start stand zeros. -/
def copy (distance : Nat) : Nat → Unpacker Unit
  | 0 => return
  | n + 1 => do
    let s ← get
    let b := if distance ≤ s.output.size then s.output.getD (s.output.size - distance) 0 else 0
    write b
    copy distance n

/-- Writes the given number of bytes from the stream. -/
def transfer : Nat → Unpacker Unit
  | 0 => return
  | n + 1 => do
    write (UInt8.ofNat (← number 8))
    transfer n

end Unpacker

end DirectShare.Archive.Deflate
