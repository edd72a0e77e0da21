import DirectShare.Crypto.Credential
import DirectShare.Crypto.Provider

/-!
# What a session is given

A session reads no clock and draws no random bytes: whoever hands it an event hands it these too,
together with the primitives for that event.
-/

namespace DirectShare

/-- What a session is given together with an event. -/
structure Surroundings where
  /-- The primitives for sealing bodies. -/
  provider : Provider
  /-- The primitives for sealing credentials. -/
  suite : CredentialSuite
  /-- Random bytes that were not used before, for one key pair. -/
  random : Bytes
  /-- The time. -/
  now : Nat

end DirectShare
