/-!
# Failures of cryptography

Why a key could not be agreed on, or a text not sealed or opened.
-/

namespace DirectShare

/-- Why a cryptographic operation failed. -/
inductive CryptoError where
  /-- The public value of the other side is none. -/
  | invalidPublicValue (detail : String)
  /-- The own key is none. -/
  | invalidKey (detail : String)
  /-- The key pair has been used. -/
  | keyConsumed
  /-- No key could be derived from the shared secret. -/
  | keyDerivation
  /-- A text could not be sealed. -/
  | encryption
  /-- A ciphertext was not sealed under this key, nonce and header. -/
  | authenticationFailed
  /-- There is no session key. -/
  | notEstablished
  /-- A sealed text is not Base64, or what it holds is not UTF-8. -/
  | encoding (detail : String)
deriving DecidableEq, Repr

/-- The message for the reader of a report. -/
def CryptoError.message : CryptoError → String
  | .invalidPublicValue detail => "invalid peer public value: " ++ detail
  | .invalidKey detail => "invalid key material: " ++ detail
  | .keyConsumed => "invalid key material: ephemeral key already consumed"
  | .keyDerivation => "key derivation failed"
  | .encryption => "encryption failed"
  | .authenticationFailed => "authentication failed"
  | .notEstablished => "session key has not been derived"
  | .encoding detail => "encoding error: " ++ detail

end DirectShare
