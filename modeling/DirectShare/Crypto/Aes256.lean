import DirectShare.Crypto.Block

/-!
# AES with keys of 256 bits

A block is a square of sixteen bytes, column by column. Each round replaces its bytes, turns its
rows, mixes its columns and adds a round key; the last round mixes no columns.

`Aes256.encipher` is the cipher of one block; the round keys are computed from the key each time.
-/

namespace DirectShare.Aes256

/-- The bytes of a block, column by column. -/
abbrev Square := Vector UInt8 16

set_option maxRecDepth 2000 in
/-- The substitute of each byte: its inverse in the field of 256 elements, mapped affinely. -/
def substitutes : Vector UInt8 256 :=
  #v[0x63, 0x7c, 0x77, 0x7b, 0xf2, 0x6b, 0x6f, 0xc5, 0x30, 0x01, 0x67, 0x2b, 0xfe, 0xd7, 0xab, 0x76,
     0xca, 0x82, 0xc9, 0x7d, 0xfa, 0x59, 0x47, 0xf0, 0xad, 0xd4, 0xa2, 0xaf, 0x9c, 0xa4, 0x72, 0xc0,
     0xb7, 0xfd, 0x93, 0x26, 0x36, 0x3f, 0xf7, 0xcc, 0x34, 0xa5, 0xe5, 0xf1, 0x71, 0xd8, 0x31, 0x15,
     0x04, 0xc7, 0x23, 0xc3, 0x18, 0x96, 0x05, 0x9a, 0x07, 0x12, 0x80, 0xe2, 0xeb, 0x27, 0xb2, 0x75,
     0x09, 0x83, 0x2c, 0x1a, 0x1b, 0x6e, 0x5a, 0xa0, 0x52, 0x3b, 0xd6, 0xb3, 0x29, 0xe3, 0x2f, 0x84,
     0x53, 0xd1, 0x00, 0xed, 0x20, 0xfc, 0xb1, 0x5b, 0x6a, 0xcb, 0xbe, 0x39, 0x4a, 0x4c, 0x58, 0xcf,
     0xd0, 0xef, 0xaa, 0xfb, 0x43, 0x4d, 0x33, 0x85, 0x45, 0xf9, 0x02, 0x7f, 0x50, 0x3c, 0x9f, 0xa8,
     0x51, 0xa3, 0x40, 0x8f, 0x92, 0x9d, 0x38, 0xf5, 0xbc, 0xb6, 0xda, 0x21, 0x10, 0xff, 0xf3, 0xd2,
     0xcd, 0x0c, 0x13, 0xec, 0x5f, 0x97, 0x44, 0x17, 0xc4, 0xa7, 0x7e, 0x3d, 0x64, 0x5d, 0x19, 0x73,
     0x60, 0x81, 0x4f, 0xdc, 0x22, 0x2a, 0x90, 0x88, 0x46, 0xee, 0xb8, 0x14, 0xde, 0x5e, 0x0b, 0xdb,
     0xe0, 0x32, 0x3a, 0x0a, 0x49, 0x06, 0x24, 0x5c, 0xc2, 0xd3, 0xac, 0x62, 0x91, 0x95, 0xe4, 0x79,
     0xe7, 0xc8, 0x37, 0x6d, 0x8d, 0xd5, 0x4e, 0xa9, 0x6c, 0x56, 0xf4, 0xea, 0x65, 0x7a, 0xae, 0x08,
     0xba, 0x78, 0x25, 0x2e, 0x1c, 0xa6, 0xb4, 0xc6, 0xe8, 0xdd, 0x74, 0x1f, 0x4b, 0xbd, 0x8b, 0x8a,
     0x70, 0x3e, 0xb5, 0x66, 0x48, 0x03, 0xf6, 0x0e, 0x61, 0x35, 0x57, 0xb9, 0x86, 0xc1, 0x1d, 0x9e,
     0xe1, 0xf8, 0x98, 0x11, 0x69, 0xd9, 0x8e, 0x94, 0x9b, 0x1e, 0x87, 0xe9, 0xce, 0x55, 0x28, 0xdf,
     0x8c, 0xa1, 0x89, 0x0d, 0xbf, 0xe6, 0x42, 0x68, 0x41, 0x99, 0x2d, 0x0f, 0xb0, 0x54, 0xbb, 0x16]

/-- The substitute of a byte. -/
def substitute (b : UInt8) : UInt8 := substitutes.get ⟨b.toNat, b.toNat_lt⟩

/-- A byte times two in the field of 256 elements. -/
def double (b : UInt8) : UInt8 := if b < 0x80 then b <<< 1 else b <<< 1 ^^^ 0x1b

/-- The square whose row with number `r` is turned left by `r` places. -/
def turnRows (s : Square) : Square :=
  .ofFn fun i => s.get ⟨(i.val + 4 * (i.val % 4)) % 16, Nat.mod_lt _ (by decide)⟩

/-- The byte that lies the given number of places below a place, in the same column. -/
def below (s : Square) (i : Fin 16) (n : Nat) : UInt8 := s.get ⟨4 * (i.val / 4) + (i.val + n) % 4, by omega⟩

/-- The square whose columns are mixed. -/
def mixColumns (s : Square) : Square :=
  .ofFn fun i => double (below s i 0) ^^^ (double (below s i 1) ^^^ below s i 1) ^^^ below s i 2 ^^^ below s i 3

/-- The sum of two squares. -/
def add (s t : Square) : Square := .ofFn fun i => s[i] ^^^ t[i]

/-! ### Round keys -/

/-- A word of four bytes. -/
abbrev Word := List UInt8

/-- The running sums of words, with a first summand. -/
def sums (first : Word) : List Word → List Word
  | [] => []
  | w :: ws => Bytes.xor first w :: sums (Bytes.xor first w) ws

/-- The eight words after eight words of the key schedule. -/
def nextWords (constant : UInt8) (ws : List Word) : List Word :=
  let last := (ws.getD 7 []).map substitute
  let turned := last.tail ++ last.take 1
  let front := sums (Bytes.xor turned [constant, 0, 0, 0]) (ws.take 4)
  front ++ sums ((front.getD 3 []).map substitute) (ws.drop 4)

/-- The words of the key schedule, eight for each constant and the given ones. -/
def schedule : (constants : List UInt8) → List Word → List Word
  | [], ws => ws
  | c :: cs, ws => ws ++ schedule cs (nextWords c ws)

/-- The square with the given bytes. -/
def squareOf (bs : Bytes) : Square := .ofFn fun i => bs.getD i.val 0

/-- The bytes cut into words. -/
def wordsOf : Bytes → List Word
  | a :: b :: c :: d :: rest => [a, b, c, d] :: wordsOf rest
  | _ => []

/-- Words taken together, four to a square. -/
def squaresOf : List Word → List Square
  | a :: b :: c :: d :: rest => squareOf (a ++ b ++ c ++ d) :: squaresOf rest
  | _ => []

/-- The fifteen round keys of a key. -/
def roundKeys (key : Bytes) : List Square :=
  (squaresOf (schedule [1, 2, 4, 8, 16, 32, 64] (wordsOf key))).take 15

/-! ### The cipher -/

/-- The rounds after the first addition. -/
def rounds : List Square → Square → Square
  | [], s => s
  | [last], s => add (turnRows (s.map substitute)) last
  | k :: ks, s => rounds ks (add (mixColumns (turnRows (s.map substitute))) k)

/-- The cipher of a block under round keys. -/
def encipherWith (keys : List Square) (b : Block) : Block :=
  match keys with
  | [] => b
  | k :: ks => Block.ofBytes (rounds ks (add (squareOf b.toBytes) k)).toList

/-- The cipher of a block under a key of 32 bytes. -/
def encipher (key : Bytes) : Block → Block := encipherWith (roundKeys key)

end DirectShare.Aes256
