import DirectShare.Bytes

/-!
# SHA-256, and keys derived with it

The hash of a message is computed block by block from eight words. A message authentication code
hashes twice with a key, and a key is derived by two such codes.

`Sha256.hash` hashes a message, `Sha256.hmac` authenticates it, and `Sha256.deriveKey` makes a key
of a shared secret.
-/

namespace DirectShare.Sha256

/-- The round constants: the leading bits of the cube roots of the first 64 primes. -/
def roundConstants : List UInt32 :=
  [0x428a2f98, 0x71374491, 0xb5c0fbcf, 0xe9b5dba5, 0x3956c25b, 0x59f111f1, 0x923f82a4, 0xab1c5ed5,
   0xd807aa98, 0x12835b01, 0x243185be, 0x550c7dc3, 0x72be5d74, 0x80deb1fe, 0x9bdc06a7, 0xc19bf174,
   0xe49b69c1, 0xefbe4786, 0x0fc19dc6, 0x240ca1cc, 0x2de92c6f, 0x4a7484aa, 0x5cb0a9dc, 0x76f988da,
   0x983e5152, 0xa831c66d, 0xb00327c8, 0xbf597fc7, 0xc6e00bf3, 0xd5a79147, 0x06ca6351, 0x14292967,
   0x27b70a85, 0x2e1b2138, 0x4d2c6dfc, 0x53380d13, 0x650a7354, 0x766a0abb, 0x81c2c92e, 0x92722c85,
   0xa2bfe8a1, 0xa81a664b, 0xc24b8b70, 0xc76c51a3, 0xd192e819, 0xd6990624, 0xf40e3585, 0x106aa070,
   0x19a4c116, 0x1e376c08, 0x2748774c, 0x34b0bcb5, 0x391c0cb3, 0x4ed8aa4a, 0x5b9cca4f, 0x682e6ff3,
   0x748f82ee, 0x78a5636f, 0x84c87814, 0x8cc70208, 0x90befffa, 0xa4506ceb, 0xbef9a3f7, 0xc67178f2]

/-- The eight words between two blocks. -/
structure State where
  /-- The first word. -/
  a : UInt32
  /-- The second word. -/
  b : UInt32
  /-- The third word. -/
  c : UInt32
  /-- The fourth word. -/
  d : UInt32
  /-- The fifth word. -/
  e : UInt32
  /-- The sixth word. -/
  f : UInt32
  /-- The seventh word. -/
  g : UInt32
  /-- The eighth word. -/
  h : UInt32
deriving DecidableEq, Repr

/-- The first state: the leading bits of the square roots of the first eight primes. -/
def State.initial : State :=
  { a := 0x6a09e667, b := 0xbb67ae85, c := 0x3c6ef372, d := 0xa54ff53a,
    e := 0x510e527f, f := 0x9b05688c, g := 0x1f83d9ab, h := 0x5be0cd19 }

/-- The wordwise sum of two states. -/
def State.add (s t : State) : State :=
  { a := s.a + t.a, b := s.b + t.b, c := s.c + t.c, d := s.d + t.d,
    e := s.e + t.e, f := s.f + t.f, g := s.g + t.g, h := s.h + t.h }

/-- The words of a state. -/
def State.words (s : State) : List UInt32 := [s.a, s.b, s.c, s.d, s.e, s.f, s.g, s.h]

/-- A word turned to the right. -/
def rotate (x : UInt32) (n : UInt32) : UInt32 := x >>> n ||| x <<< (32 - n)

/-- One round with a round constant and a word of the message. -/
def round (s : State) (k w : UInt32) : State :=
  let s1 := rotate s.e 6 ^^^ rotate s.e 11 ^^^ rotate s.e 25
  let choice := s.e &&& s.f ^^^ ~~~s.e &&& s.g
  let t1 := s.h + s1 + choice + k + w
  let s0 := rotate s.a 2 ^^^ rotate s.a 13 ^^^ rotate s.a 22
  let majority := s.a &&& s.b ^^^ s.a &&& s.c ^^^ s.b &&& s.c
  { a := t1 + (s0 + majority), b := s.a, c := s.b, d := s.c, e := s.d + t1, f := s.e, g := s.f, h := s.g }

/-- The word that the message schedule adds after sixteen words. -/
def nextWord (window : List UInt32) : UInt32 :=
  let w (i : Nat) : UInt32 := window.getD i 0
  let s0 := rotate (w 1) 7 ^^^ rotate (w 1) 18 ^^^ w 1 >>> 3
  let s1 := rotate (w 14) 17 ^^^ rotate (w 14) 19 ^^^ w 14 >>> 10
  w 0 + s0 + w 9 + s1

/-- One round with the first word of the window, after which the window moves on by a word. -/
def step (sw : State × List UInt32) (k : UInt32) : State × List UInt32 :=
  (round sw.1 k (sw.2.headD 0), sw.2.tail ++ [nextWord sw.2])

/-- The big-endian words of a byte string. -/
def wordsOf : Bytes → List UInt32
  | a :: b :: c :: d :: rest => UInt32.ofNat (Bytes.toNatBE [a, b, c, d]) :: wordsOf rest
  | _ => []

/-- The state after a block of 64 bytes. -/
def compress (s : State) (block : Bytes) : State :=
  s.add (roundConstants.foldl step (s, wordsOf block)).1

/-- The message with its padding: a one bit, zeros, and the length in bits. -/
def pad (message : Bytes) : Bytes :=
  let zeros := (119 - message.length % 64) % 64
  message ++ 0x80 :: (List.replicate zeros 0 ++ Bytes.ofNatBE 8 (8 * message.length))

/-- The state after all blocks. -/
def absorb (s : State) (bs : Bytes) : State :=
  if bs.length < 64 then s else absorb (compress s (bs.take 64)) (bs.drop 64)
termination_by bs.length
decreasing_by simp only [List.length_drop]; omega

/-- The hash of a message. -/
def hash (message : Bytes) : Bytes :=
  (absorb .initial (pad message)).words.flatMap fun w => Bytes.ofNatBE 4 w.toNat

/-- The key of an authentication code as a block. -/
def keyBlock (key : Bytes) : Bytes :=
  let short := if 64 < key.length then hash key else key
  short ++ List.replicate (64 - short.length) 0

/-- The authentication code of a message. -/
def hmac (key message : Bytes) : Bytes :=
  let block := keyBlock key
  hash (block.map (· ^^^ 0x5c) ++ hash (block.map (· ^^^ 0x36) ++ message))

/-- A key of 32 bytes from a secret and a text that tells what it is for. -/
def deriveKey (secret info : Bytes) : Bytes :=
  hmac (hmac (List.replicate 32 0) secret) (info ++ [1])

/-- A hash has 32 bytes. -/
@[simp] theorem length_hash (message : Bytes) : (hash message).length = 32 := by
  simp [hash, State.words]

end DirectShare.Sha256
