import DirectShare.Bytes

/-!
# Blocks and counter mode

A block cipher works on blocks of 128 bits. In counter mode the ciphers of successive counters make
a stream of bytes that is added to the text, so that adding it again gives the text back.

A `Block` is a number of 128 bits, `Block.keystream` the stream for a text of a given length, and
`Block.counterMode` the text with the stream added.
-/

namespace DirectShare

/-- A block of 128 bits. -/
abbrev Block := BitVec 128

namespace Block

/-- The bytes of a block. -/
def toBytes (b : Block) : Bytes := Bytes.ofNatBE 16 b.toNat

/-- The block with the given bytes, of which missing ones are zeros at the end. -/
def ofBytes (bs : Bytes) : Block := BitVec.ofNat 128 (Bytes.toNatBE (bs ++ List.replicate (16 - bs.length) 0))

/-- The ciphers of the given number of successive counters. -/
def stream (cipher next : Block → Block) : Nat → Block → Bytes
  | 0, _ => []
  | n + 1, counter => (cipher counter).toBytes ++ stream cipher next n (next counter)

/-- A stream that is as long as a text of the given length, up to the end of a block. -/
def keystream (cipher next : Block → Block) (counter : Block) (length : Nat) : Bytes :=
  stream cipher next ((length + 15) / 16) counter

/-- A text with the stream added. -/
def counterMode (cipher next : Block → Block) (counter : Block) (text : Bytes) : Bytes :=
  Bytes.xor text (keystream cipher next counter text.length)

/-- A block has sixteen bytes. -/
@[simp] theorem length_toBytes (b : Block) : b.toBytes.length = 16 := by simp [toBytes]

/-- A stream of `n` blocks has sixteen bytes for each. -/
@[simp] theorem length_stream (cipher next : Block → Block) (n : Nat) (counter : Block) :
    (stream cipher next n counter).length = 16 * n := by
  induction n generalizing counter with
  | zero => rfl
  | succ n ih => simp [stream, ih]; omega

/-- Counter mode keeps the length of a text. -/
@[simp] theorem length_counterMode (cipher next : Block → Block) (counter : Block) (text : Bytes) :
    (counterMode cipher next counter text).length = text.length := by
  simp [counterMode, Bytes.xor, keystream]
  omega

/-- The exclusive or with a stream that is long enough is undone by doing it again. -/
theorem xor_xor {text stream : Bytes} (h : text.length ≤ stream.length) :
    Bytes.xor (Bytes.xor text stream) stream = text := by
  induction text generalizing stream with
  | nil => simp [Bytes.xor]
  | cons b text ih =>
    cases stream with
    | nil => simp at h
    | cons s stream =>
      have hrest : Bytes.xor (Bytes.xor text stream) stream = text := ih (Nat.le_of_succ_le_succ h)
      have hfirst : b ^^^ s ^^^ s = b := by rw [UInt8.xor_assoc, UInt8.xor_self, UInt8.xor_zero]
      simp only [Bytes.xor, List.zipWith_cons_cons, hfirst] at hrest ⊢
      rw [hrest]

/-- Adding the stream twice gives the text back. -/
@[simp] theorem counterMode_counterMode (cipher next : Block → Block) (counter : Block) (text : Bytes) :
    counterMode cipher next counter (counterMode cipher next counter text) = text := by
  rw [counterMode, length_counterMode, counterMode]
  exact xor_xor (by simp [keystream]; omega)

end Block

end DirectShare
