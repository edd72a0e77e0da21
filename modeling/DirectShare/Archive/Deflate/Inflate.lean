import DirectShare.Archive.Deflate.PrefixCode

/-!
# Inflating

A deflated file is a sequence of blocks. A block holds bytes as they are, or symbols in two prefix
codes: bytes, and references to bytes written before, by length and distance. The codes are fixed or
described at the start of the block.

`inflate` reads block after block until the last one. Each loop reads at least one bit of the stream
in every round, which bounds the number of rounds.
-/

namespace DirectShare.Archive.Deflate

/-- The bytes that unpacking gives. -/
structure Unpacked where
  /-- The bytes up to the end, or those that were settled when it broke off. -/
  data : Bytes
  /-- Whether the end was reached. -/
  whole : Bool
deriving DecidableEq, Repr

/-- The least length and the number of further bits for each symbol from 257 on. -/
def lengths : Array (Nat × Nat) :=
  #[(3, 0), (4, 0), (5, 0), (6, 0), (7, 0), (8, 0), (9, 0), (10, 0), (11, 1), (13, 1), (15, 1), (17, 1),
    (19, 2), (23, 2), (27, 2), (31, 2), (35, 3), (43, 3), (51, 3), (59, 3), (67, 4), (83, 4), (99, 4),
    (115, 4), (131, 5), (163, 5), (195, 5), (227, 5), (258, 0)]

/-- The least distance and the number of further bits for each distance symbol. -/
def distances : Array (Nat × Nat) :=
  #[(1, 0), (2, 0), (3, 0), (4, 0), (5, 1), (7, 1), (9, 2), (13, 2), (17, 3), (25, 3), (33, 4), (49, 4),
    (65, 5), (97, 5), (129, 6), (193, 6), (257, 7), (385, 7), (513, 8), (769, 8), (1025, 9), (1537, 9),
    (2049, 10), (3073, 10), (4097, 11), (6145, 11), (8193, 12), (12289, 12), (16385, 13), (24577, 13)]

/-- The order in which the word lengths of the code for word lengths are given. -/
def lengthOrder : List Nat := [16, 17, 18, 0, 8, 7, 9, 6, 10, 5, 11, 4, 12, 3, 13, 2, 14, 1, 15]

/-- The code of a block, or the end of unpacking if there is none. -/
def codeOf (complete : Bool) (lengths : List Nat) : Unpacker PrefixCode :=
  match PrefixCode.ofLengths? complete lengths with
  | some code => return code
  | none => throw .corrupt

/-- Reads a number whose range the symbol tells. -/
def ranged (ranges : Array (Nat × Nat)) (symbol : Nat) : Unpacker Nat :=
  match ranges[symbol]? with
  | some (least, bits) => return least + (← Unpacker.number bits)
  | none => throw .corrupt

/-- Takes symbols up to the end of the block. Each takes a bit at least, and `fuel` exceeds their number. -/
def symbols (literals distanceCode : PrefixCode) : (fuel : Nat) → Unpacker Unit
  | 0 => throw .cut
  | fuel + 1 => do
    let s ← literals.symbol
    if s = 256 then return
    if s < 256 then Unpacker.write (UInt8.ofNat s)
    else
      let length ← ranged lengths (s - 257)
      let distance ← ranged distances (← distanceCode.symbol)
      Unpacker.copy distance length
    symbols literals distanceCode fuel

/-- Reads word lengths until there are as many as wanted. Each takes a bit at least, and `fuel`
exceeds their number. -/
def wordLengths (code : PrefixCode) (wanted : Nat) : (fuel : Nat) → (found : Array Nat) → Unpacker (List Nat)
  | 0, _ => throw .cut
  | fuel + 1, found => do
    if found.size = wanted then return found.toList
    if wanted < found.size then throw .corrupt
    let s ← code.symbol
    if s < 16 then wordLengths code wanted fuel (found.push s)
    else if s = 16 then
      let some last := found.back? | throw .corrupt
      let count := 3 + (← Unpacker.number 2)
      wordLengths code wanted fuel (found ++ Array.replicate count last)
    else
      let (least, bits) := if s = 17 then (3, 3) else (11, 7)
      let count := least + (← Unpacker.number bits)
      wordLengths code wanted fuel (found ++ Array.replicate count 0)

/-- The lengths of the fixed code for bytes and lengths. -/
def fixedLiterals : List Nat :=
  List.replicate 144 8 ++ List.replicate 112 9 ++ List.replicate 24 7 ++ List.replicate 8 8

/-- A block of bytes as they are, behind their number and its complement. -/
def storedBlock : Unpacker Unit := do
  Unpacker.align
  let length ← Unpacker.number 16
  let complement ← Unpacker.number 16
  if length + complement ≠ 65535 then throw .corrupt
  Unpacker.transfer length

/-- A block in the fixed codes. -/
def fixedBlock (fuel : Nat) : Unpacker Unit := do
  symbols (← codeOf false fixedLiterals) (← codeOf false (List.replicate 32 5)) fuel

/-- A block in codes that it describes first. -/
def describedBlock (fuel : Nat) : Unpacker Unit := do
  let literalCount := 257 + (← Unpacker.number 5)
  let distanceCount := 1 + (← Unpacker.number 5)
  let lengthCount := 4 + (← Unpacker.number 4)
  if 286 < literalCount ∨ 30 < distanceCount then throw .corrupt
  let given ← (lengthOrder.take lengthCount).mapM fun symbol => return (symbol, ← Unpacker.number 3)
  let lengthCode ← codeOf true ((List.range 19).map fun symbol => (given.lookup symbol).getD 0)
  let found ← wordLengths lengthCode (literalCount + distanceCount) fuel #[]
  let literals ← codeOf false (found.take literalCount)
  let distanceCode ← codeOf false (found.drop literalCount)
  symbols literals distanceCode fuel

/-- Takes blocks up to the last. Each takes a bit at least, and `fuel` exceeds their number. -/
def blocks : (fuel : Nat) → Unpacker Unit
  | 0 => throw .cut
  | fuel + 1 => do
    let last ← Unpacker.bit
    match ← Unpacker.number 2 with
    | 0 => storedBlock
    | 1 => fixedBlock fuel
    | 2 => describedBlock fuel
    | _ => throw .corrupt
    if last then return
    blocks fuel

/-- The bytes that a deflated file stands for; what follows the last block is passed over. -/
def inflate (packed : Bytes) : Unpacked :=
  let bits := bitsOf packed
  match blocks (bits.length + 1) { bits } with
  | .ok _ s => { data := s.output.toList, whole := true }
  | .error .cut s => { data := s.output.toList, whole := false }
  | .error .corrupt s => { data := s.output.toList.take s.settled, whole := false }

end DirectShare.Archive.Deflate
