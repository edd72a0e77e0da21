import DirectShare.Crypto.Aes256

/-!
# Galois counter mode

The text is hidden by counter mode. A tag of sixteen bytes, a polynomial in a key-dependent block
over the field of `2 ^ 128` elements, authenticates the hidden text and a header.

`Gcm.encrypt` and `Gcm.decrypt?` seal and open with any block cipher; opening fails if the tag is
another one.
-/

namespace DirectShare.Gcm

/-- One step of a product: the sum so far, and the second factor times a power of the generator. A
block writes the constant coefficient in its most significant bit. -/
def mulStep (a : Block) (zv : Block × Block) (i : Nat) : Block × Block :=
  let z := if a.getMsbD i then zv.1 ^^^ zv.2 else zv.1
  let v := if zv.2.getLsbD 0 then zv.2 >>> 1 ^^^ (0xe1#128 <<< 120) else zv.2 >>> 1
  (z, v)

/-- The product of two blocks in the field of `2 ^ 128` elements. -/
def mul (a b : Block) : Block := ((List.range 128).foldl (mulStep a) (0, b)).1

/-- A byte string cut into blocks, the last one filled up with zeros. -/
def blocksOf (bs : Bytes) : List Block :=
  match bs with
  | [] => []
  | b :: bs => Block.ofBytes (b :: bs.take 15) :: blocksOf (bs.drop 15)
termination_by bs.length
decreasing_by simp only [List.length_cons, List.length_drop]; omega

/-- The hash of blocks with a key. -/
def hash (key : Block) (bs : List Block) : Block := bs.foldl (fun y b => mul (y ^^^ b) key) 0

/-- The block that holds the lengths in bits of the header and the ciphertext. -/
def lengths (header ciphertext : Bytes) : Block :=
  Block.ofBytes (Bytes.ofNatBE 8 (8 * header.length) ++ Bytes.ofNatBE 8 (8 * ciphertext.length))

/-- The counter after a counter, of which only the last 32 bits count. -/
def next (b : Block) : Block := (b >>> 32) <<< 32 ||| ((b + 1).setWidth 32).setWidth 128

/-- The first counter of a nonce of twelve bytes. -/
def firstCounter (nonce : Bytes) : Block := Block.ofBytes (nonce.take 12 ++ [0, 0, 0, 1])

/-- The tag of a ciphertext and its header. -/
def tag (cipher : Block → Block) (nonce header ciphertext : Bytes) : Bytes :=
  let digest := hash (cipher 0) (blocksOf header ++ blocksOf ciphertext ++ [lengths header ciphertext])
  (digest ^^^ cipher (firstCounter nonce)).toBytes

/-- A text with the stream of a nonce added. -/
def hide (cipher : Block → Block) (nonce text : Bytes) : Bytes :=
  Block.counterMode cipher next (next (firstCounter nonce)) text

/-- A plaintext sealed with its header: the hidden text and the tag. -/
def encrypt (cipher : Block → Block) (nonce header plaintext : Bytes) : Bytes :=
  let hidden := hide cipher nonce plaintext
  hidden ++ tag cipher nonce header hidden

/-- The plaintext that was sealed with the header, if the tag is right. -/
def decrypt? (cipher : Block → Block) (nonce header sealed : Bytes) : Option Bytes :=
  if sealed.length < 16 then none
  else
    let hidden := sealed.take (sealed.length - 16)
    if sealed.drop (sealed.length - 16) = tag cipher nonce header hidden then
      some (hide cipher nonce hidden)
    else none

/-- What was sealed is opened with the same header. -/
theorem decrypt?_encrypt (cipher : Block → Block) (nonce header plaintext : Bytes) :
    decrypt? cipher nonce header (encrypt cipher nonce header plaintext) = some plaintext := by
  simp [decrypt?, encrypt, hide, tag]

end DirectShare.Gcm
