import DirectShare.Crypto.Provider
import DirectShare.Role
import DirectShare.Text.Base64

/-!
# Session keys

One side's share in the encryption of a session: first a key pair, then the key that was agreed on.
The key pair is used once. Each sealed text has a nonce of its own, made of the side that sends it,
the number of its frame, and how many were sealed before.

`CryptoContext.derive` agrees on the key with the public value of the other side.
`CryptoContext.encrypt` and `CryptoContext.decrypt` seal and open under it, and count.
-/

namespace DirectShare

/-- One side's share in the encryption of a session. -/
structure CryptoContext where
  /-- The side. -/
  role : Role
  /-- The key pair, until it is used. -/
  keyPair : Option KeyPair
  /-- The key, once it is agreed on. -/
  key : Option SharedKey := none
  /-- How many texts were sealed. -/
  sent : UInt32 := 0
  /-- How many texts were opened. -/
  received : UInt32 := 0
deriving DecidableEq, Repr

namespace CryptoContext

/-- A context with a key pair made from random bytes. -/
def create (p : Provider) (role : Role) (random : Bytes) : Except CryptoError CryptoContext :=
  (p.generate random).map fun pair => { role, keyPair := some pair }

/-- The public value, until the key pair is used. -/
def publicValue? (c : CryptoContext) : Option Bytes := c.keyPair.map (·.publicValue)

/-- The public value as Base64 text. -/
def publicText? (c : CryptoContext) : Option String := c.publicValue?.map Base64.encode

/-- Whether the key is agreed on. -/
def isEstablished (c : CryptoContext) : Bool := c.key.isSome

/-- Uses the key pair to agree on a key with the owner of a public value. -/
def derive (p : Provider) (peer : Bytes) : EStateM CryptoError CryptoContext Unit := fun c =>
  match c.keyPair with
  | none => .error .keyConsumed c
  | some pair =>
    match p.agree pair peer with
    | .error e => .error e { c with keyPair := none }
    | .ok key => .ok () { c with keyPair := none, key := some key }

/-- Agrees on a key with the owner of a public value in Base64. -/
def deriveText (p : Provider) (peer : String) : EStateM CryptoError CryptoContext Unit :=
  match Base64.decode peer with
  | none => throw (.invalidPublicValue "not Base64")
  | some bs => derive p bs

/-- The nonce for a text that a side seals: its letter, three zeros, the number of the frame and the
number of texts before it. -/
def nonce (origin : Role) (sequence counter : UInt32) : Bytes :=
  [origin.nonceByte, 0, 0, 0] ++ Bytes.ofNatBE 4 sequence.toNat ++ Bytes.ofNatBE 4 counter.toNat

/-- Seals the plaintext of a frame with the given number and header. -/
def encrypt (p : Provider) (sequence : UInt32) (header plaintext : Bytes) :
    EStateM CryptoError CryptoContext Bytes := fun c =>
  match c.key with
  | none => .error .notEstablished c
  | some key =>
    if c.sent.toNat + 1 < UInt32.size then
      match p.encrypt key (nonce c.role sequence c.sent) header plaintext with
      | .error e => .error e c
      | .ok sealed => .ok sealed { c with sent := c.sent + 1 }
    else .error .encryption c

/-- Opens the ciphertext of a frame with the given number and header. -/
def decrypt (p : Provider) (sequence : UInt32) (header ciphertext : Bytes) :
    EStateM CryptoError CryptoContext Bytes := fun c =>
  match c.key with
  | none => .error .notEstablished c
  | some key =>
    match p.decrypt key (nonce c.role.peer sequence c.received) header ciphertext with
    | .error e => .error e c
    | .ok plaintext => .ok plaintext { c with received := c.received + 1 }

/-- The context without its key pair and key. -/
def erase (c : CryptoContext) : CryptoContext := { c with keyPair := none, key := none }

instance : Inspect CryptoContext where
  inspect c :=
    "SessionCryptoContext \x7b role: " ++ inspect c.role ++ ", established: " ++ inspect c.isEstablished
      ++ ", sent: " ++ inspect c.sent ++ ", received: " ++ inspect c.received ++ ", .. \x7d"

end CryptoContext

end DirectShare
