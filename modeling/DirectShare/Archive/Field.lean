import DirectShare.Bytes

/-!
# Fields of records

The records of an archive are sequences of numbers of two, four or eight bytes, least significant
byte first, and of byte strings whose lengths stand before them. What is written is read back,
whatever follows it.

`number16`, `number32` and `number64` write numbers. A `Reader` reads from the start of a byte
string: `Reader.take` and `Reader.expect` a byte string, and `Reader.number16`, `Reader.number32`
and `Reader.number64` a number.
-/

namespace DirectShare.Archive

/-- A number in two bytes. -/
def number16 (n : UInt16) : Bytes := Bytes.ofNatLE 2 n.toNat

/-- A number in four bytes. -/
def number32 (n : UInt32) : Bytes := Bytes.ofNatLE 4 n.toNat

/-- A number in eight bytes. -/
def number64 (n : UInt64) : Bytes := Bytes.ofNatLE 8 n.toNat

/-- A number of 16 bits takes two bytes. -/
@[simp] theorem length_number16 (n : UInt16) : (number16 n).length = 2 := by simp [number16]

/-- A number of 32 bits takes four bytes. -/
@[simp] theorem length_number32 (n : UInt32) : (number32 n).length = 4 := by simp [number32]

/-- A number of 64 bits takes eight bytes. -/
@[simp] theorem length_number64 (n : UInt64) : (number64 n).length = 8 := by simp [number64]

/-- The two bytes of a number stand for it. -/
theorem ofNat_toNatLE_number16 (n : UInt16) : UInt16.ofNat (Bytes.toNatLE (number16 n)) = n := by
  have h : n.toNat < Nat.pow 256 2 := n.toNat_lt
  rw [number16, Bytes.toNatLE_ofNatLE, Nat.mod_eq_of_lt h, UInt16.ofNat_toNat]

/-- The four bytes of a number stand for it. -/
theorem ofNat_toNatLE_number32 (n : UInt32) : UInt32.ofNat (Bytes.toNatLE (number32 n)) = n := by
  have h : n.toNat < Nat.pow 256 4 := n.toNat_lt
  rw [number32, Bytes.toNatLE_ofNatLE, Nat.mod_eq_of_lt h, UInt32.ofNat_toNat]

/-- The eight bytes of a number stand for it. -/
theorem ofNat_toNatLE_number64 (n : UInt64) : UInt64.ofNat (Bytes.toNatLE (number64 n)) = n := by
  have h : n.toNat < Nat.pow 256 8 := n.toNat_lt
  rw [number64, Bytes.toNatLE_ofNatLE, Nat.mod_eq_of_lt h, UInt64.ofNat_toNat]

/-- Reads from the start of a byte string and leaves the rest. -/
abbrev Reader := StateT Bytes Option

namespace Reader

/-- Reads the given number of bytes. -/
def take (n : Nat) : Reader Bytes := fun bs =>
  let front := bs.take n
  if front.length = n then some (front, bs.drop n) else none

/-- Reads bytes that must be there. -/
def expect (pattern : Bytes) : Reader Unit := fun bs =>
  if pattern.isPrefixOf bs then some ((), bs.drop pattern.length) else none

/-- Reads a number of two bytes. -/
def number16 : Reader UInt16 := do return UInt16.ofNat (Bytes.toNatLE (← take 2))

/-- Reads a number of four bytes. -/
def number32 : Reader UInt32 := do return UInt32.ofNat (Bytes.toNatLE (← take 4))

/-- Reads a number of eight bytes. -/
def number64 : Reader UInt64 := do return UInt64.ofNat (Bytes.toNatLE (← take 8))

/-- Taking as many bytes as stand in front gives just these. -/
theorem take_append {n : Nat} {bs : Bytes} (h : bs.length = n) (rest : Bytes) :
    take n (bs ++ rest) = some (bs, rest) := by
  subst h
  simp only [take, List.take_left, List.drop_left, ↓reduceIte]

/-- A pattern that stands in front is passed over. -/
theorem expect_append (pattern rest : Bytes) :
    expect pattern (pattern ++ rest) = some ((), rest) := by
  have h : pattern.isPrefixOf (pattern ++ rest) = true := List.isPrefixOf_iff_prefix.2 ⟨rest, rfl⟩
  simp only [expect, h, ↓reduceIte, List.drop_left]

/-- A reader goes on with the rest after what was read. -/
theorem bind_of_eq_some {α β : Type} {r : Reader α} {f : α → Reader β} {bs rest : Bytes} {a : α}
    (h : r bs = some (a, rest)) : (r >>= f) bs = f a rest := by
  simp only [Bind.bind, StateT.bind, h, Option.bind]

/-- A reader that only gives a result leaves all bytes. -/
theorem pure_apply {α : Type} (a : α) (bs : Bytes) : (pure a : Reader α) bs = some (a, bs) := rfl

/-- A written number of 16 bits is read back. -/
theorem number16_append (n : UInt16) (rest : Bytes) :
    number16 (Archive.number16 n ++ rest) = some (n, rest) := by
  rw [number16, bind_of_eq_some (take_append (length_number16 n) rest), ofNat_toNatLE_number16, pure_apply]

/-- A written number of 32 bits is read back. -/
theorem number32_append (n : UInt32) (rest : Bytes) :
    number32 (Archive.number32 n ++ rest) = some (n, rest) := by
  rw [number32, bind_of_eq_some (take_append (length_number32 n) rest), ofNat_toNatLE_number32, pure_apply]

/-- A written number of 64 bits is read back. -/
theorem number64_append (n : UInt64) (rest : Bytes) :
    number64 (Archive.number64 n ++ rest) = some (n, rest) := by
  rw [number64, bind_of_eq_some (take_append (length_number64 n) rest), ofNat_toNatLE_number64, pure_apply]

/-- Reading goes on behind an expected pattern. -/
theorem bind_expect {β : Type} (f : Unit → Reader β) (pattern rest : Bytes) :
    (expect pattern >>= f) (pattern ++ rest) = f () rest :=
  bind_of_eq_some (expect_append pattern rest)

/-- Reading goes on behind a number of 16 bits, with that number. -/
theorem bind_number16 {β : Type} (f : UInt16 → Reader β) (n : UInt16) (rest : Bytes) :
    (number16 >>= f) (Archive.number16 n ++ rest) = f n rest :=
  bind_of_eq_some (number16_append n rest)

/-- Reading goes on behind a number of 32 bits, with that number. -/
theorem bind_number32 {β : Type} (f : UInt32 → Reader β) (n : UInt32) (rest : Bytes) :
    (number32 >>= f) (Archive.number32 n ++ rest) = f n rest :=
  bind_of_eq_some (number32_append n rest)

/-- Reading goes on behind a number of 64 bits, with that number. -/
theorem bind_number64 {β : Type} (f : UInt64 → Reader β) (n : UInt64) (rest : Bytes) :
    (number64 >>= f) (Archive.number64 n ++ rest) = f n rest :=
  bind_of_eq_some (number64_append n rest)

end Reader

end DirectShare.Archive
