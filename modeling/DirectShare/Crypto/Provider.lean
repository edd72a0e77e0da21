import DirectShare.Bytes
import DirectShare.Crypto.Error

/-!
# Primitives for sessions

A session knows its cryptography only through a provider: key pairs from random bytes, key
agreement, and sealing with a header that is authenticated but not hidden. Any call may fail.

A `Provider` makes a `KeyPair` from random bytes, agrees on keys, and seals and opens.
`EncryptionMode.negotiate` decides whether two sides encrypt.
-/

namespace DirectShare

/-- A private key with its public value. -/
structure KeyPair where
  /-- The private key. -/
  secret : Bytes
  publicValue : Bytes
deriving DecidableEq, Repr

/-- A key that both sides have agreed on. -/
structure SharedKey where
  /-- The bytes of the key. -/
  bytes : Bytes
deriving DecidableEq, Repr

/-- The primitives that a session uses. -/
structure Provider where
  /-- The key pair that is made from random bytes. -/
  generate : Bytes → Except CryptoError KeyPair
  /-- The key that a key pair and the public value of the other side agree on. -/
  agree : KeyPair → Bytes → Except CryptoError SharedKey
  /-- Seals a plaintext under a key, a nonce and a header. -/
  encrypt : SharedKey → (nonce header plaintext : Bytes) → Except CryptoError Bytes
  /-- Opens a ciphertext that was sealed under the same key, nonce and header. -/
  decrypt : SharedKey → (nonce header ciphertext : Bytes) → Except CryptoError Bytes

/-- Whether a session is encrypted. -/
inductive EncryptionMode where
  /-- Both sides want encryption. -/
  | enabled
  /-- One side does not. -/
  | disabled
deriving DecidableEq, Repr

namespace EncryptionMode

/-- The mode for two sides of which each may want encryption. -/
def negotiate (here there : Bool) : EncryptionMode := if here && there then .enabled else .disabled

/-- Whether the session is encrypted. -/
def isEnabled : EncryptionMode → Bool
  | .enabled => true
  | .disabled => false

/-- Two sides encrypt exactly if both want it. -/
@[simp] theorem isEnabled_negotiate (here there : Bool) :
    (negotiate here there).isEnabled = (here && there) := by
  cases here <;> cases there <;> rfl

end EncryptionMode

end DirectShare
