import DirectShare.Crypto.Error
import DirectShare.Crypto.Block
import DirectShare.Crypto.P256
import DirectShare.Crypto.Aes256
import DirectShare.Text.Base64
import DirectShare.Text.Blank
import DirectShare.Wire.NetworkInfo

/-!
# Sealed credentials

Over the radio, a sender seals the name, the password and the address of its network with a key
that it shares with the receiver. Both publish a key as Base64 text. Every text is sealed under the
same first counter.

The primitives are a `CredentialSuite`. `CredentialKey.derive` makes a `CredentialCipher` from a
private key and a published one; it seals and opens single texts by `CredentialCipher.encrypt` and
`CredentialCipher.decrypt`, and descriptions of networks by `CredentialCipher.sealNetwork` and
`CredentialCipher.openNetwork`.
-/

namespace DirectShare

/-- A key that both sides share, as the block cipher under it. -/
structure CredentialCipher where
  /-- The cipher of a block. -/
  encipher : Block → Block

/-- A private key for credentials. -/
structure CredentialKey where
  /-- The bytes of the key. -/
  secret : Bytes
deriving DecidableEq, Repr

/-- The primitives for sealing credentials. -/
structure CredentialSuite where
  /-- The written public key of a private key. -/
  publicKey : CredentialKey → Bytes
  /-- The key that a private key and the public key of the other side agree on. -/
  agree : CredentialKey → Bytes → Option CredentialCipher

namespace CredentialKey

/-- Whether a public key is written as a bare point with both coordinates, and not with its
algorithm. -/
def isBarePoint (bs : Bytes) : Bool := bs.length = 65 ∧ bs.head? = some 4

/-- The point of a public key, which is a bare point or written with its algorithm. -/
def point? (bs : Bytes) : Option P256.Point :=
  if isBarePoint bs then P256.Point.ofBytes? bs else P256.Point.ofKey? bs

/-- The public key as Base64 text. -/
def publicText (suite : CredentialSuite) (k : CredentialKey) : String := Base64.encode (suite.publicKey k)

/-- The key that is shared with the owner of a public key, given as Base64 text that may stand
between blanks. -/
def derive (suite : CredentialSuite) (k : CredentialKey) (peer : String) : Except CryptoError CredentialCipher :=
  match Base64.bytes? (Text.trim peer.toList) with
  | none => .error (.invalidPublicValue "not Base64")
  | some bs =>
    match suite.agree k bs with
    | some c => .ok c
    | none => .error (.invalidPublicValue (if isBarePoint bs then "SEC1: no point" else "SPKI: no key"))

end CredentialKey

namespace CredentialCipher

/-- The first counter: sixteen digits as text. -/
def firstCounter : Block := 0x30313032303330343035303630373038#128

/-- Bytes with the stream under the key added. -/
def apply (c : CredentialCipher) (bs : Bytes) : Bytes := Block.counterMode c.encipher (· + 1) firstCounter bs

/-- A sealed text. -/
def encrypt (c : CredentialCipher) (s : String) : String := Base64.encode (c.apply (Utf8.encode s))

/-- The text that was sealed. -/
def decrypt (c : CredentialCipher) (s : String) : Except CryptoError String :=
  match Base64.decode s with
  | none => .error (.encoding "not Base64")
  | some bs =>
    match Utf8.decode (c.apply bs) with
    | none => .error (.encoding "not UTF-8")
    | some t => .ok t

/-- A description with sealed credentials, the name of the session and a key for opening them. -/
def sealNetwork (c : CredentialCipher) (info : NetworkInfo) (id key : String) : NetworkInfo :=
  NetworkInfo.sealed id (c.encrypt info.ssid) (c.encrypt info.psk) (c.encrypt info.mac) info.port key

/-- A description with its credentials opened. -/
def openNetwork (c : CredentialCipher) (info : NetworkInfo) : Except CryptoError NetworkInfo := do
  let ssid ← c.decrypt info.ssid
  let psk ← c.decrypt info.psk
  let mac ← c.decrypt info.mac
  return { info with ssid, psk, mac, key := none }

/-- Applying the stream twice gives the text back. -/
@[simp] theorem apply_apply (c : CredentialCipher) (bs : Bytes) : c.apply (c.apply bs) = bs := by
  simp [apply]

end CredentialCipher

namespace CredentialSuite

/-- The standard primitives: the curve P-256 and AES. -/
def standard : CredentialSuite where
  publicKey k :=
    match (P256.scalar? k.secret).bind P256.publicPoint? with
    | some q => q.encodeKey
    | none => []
  agree k peer := do
    let scalar ← P256.scalar? k.secret
    let q ← CredentialKey.point? peer
    let secret ← P256.sharedSecret? scalar q
    return ⟨Aes256.encipher secret⟩

end CredentialSuite

end DirectShare
