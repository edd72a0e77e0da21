import DirectShare.Crypto.Provider
import DirectShare.Crypto.P256
import DirectShare.Crypto.Sha256
import DirectShare.Crypto.Gcm
import DirectShare.Text.Utf8

/-!
# The standard provider

Key pairs on the curve P-256, keys derived by SHA-256, and sealing by AES in Galois counter mode.

`Provider.standard` is what devices use.
-/

namespace DirectShare.Provider.Standard

/-- The text that the derived key is for. -/
def purpose : Bytes := Utf8.encode "mta-handshake-v1"

/-- The key pair whose private key is a scalar given by its bytes. -/
def generate (random : Bytes) : Except CryptoError KeyPair :=
  match (P256.scalar? random).bind P256.publicPoint? with
  | none => .error (.invalidKey "no scalar of the curve")
  | some q => .ok { secret := random, publicValue := q.encode }

/-- The key that is derived from the shared secret of a key pair and a public value. -/
def agree (pair : KeyPair) (peer : Bytes) : Except CryptoError SharedKey :=
  match P256.scalar? pair.secret with
  | none => .error (.invalidKey "no scalar of the curve")
  | some k =>
    match P256.Point.ofBytes? peer with
    | none => .error (.invalidPublicValue "no point of the curve")
    | some q =>
      match P256.sharedSecret? k q with
      | none => .error .keyDerivation
      | some secret => .ok ⟨Sha256.deriveKey secret purpose⟩

/-- Seals a plaintext with its header. -/
def encrypt (key : SharedKey) (nonce header plaintext : Bytes) : Except CryptoError Bytes :=
  .ok (Gcm.encrypt (Aes256.encipher key.bytes) nonce header plaintext)

/-- Opens what was sealed with the same header. -/
def decrypt (key : SharedKey) (nonce header ciphertext : Bytes) : Except CryptoError Bytes :=
  match Gcm.decrypt? (Aes256.encipher key.bytes) nonce header ciphertext with
  | none => .error .authenticationFailed
  | some plaintext => .ok plaintext

end DirectShare.Provider.Standard

/-- The standard provider. -/
def DirectShare.Provider.standard : DirectShare.Provider :=
  { generate := Standard.generate, agree := Standard.agree, encrypt := Standard.encrypt,
    decrypt := Standard.decrypt }
