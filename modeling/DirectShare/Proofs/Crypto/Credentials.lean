import Mathlib
import DirectShare.Crypto.Credential
import DirectShare.Proofs.Wire.Frames

/-!
# Sealed credentials are opened

Two private keys that fit together give both sides the same cipher, whatever public keys they exchange as
text. What one side seals for a network, the other one opens.

`CredentialSuite.Fits` says of two private keys that either agrees on the same key with the other's public
one. For such keys `CredentialKey.derive_publicText` gives one cipher on both sides, through the text in which
a public key is written, and `CredentialCipher.openNetwork_sealNetwork` opens under it what was sealed.
-/

namespace DirectShare

/-- Trimming a text without white space leaves it as it is. -/
lemma Text.trim_of_forall {cs : List Char} (h : ∀ c ∈ cs, isBlank c = false) : trim cs = cs := by
  have hdrop : ∀ l : List Char, (∀ c ∈ l, isBlank c = false) → l.dropWhile isBlank = l := by
    intro l hl
    cases l with
    | nil => rfl
    | cons c l => simp [hl c]
  rw [trim, hdrop cs h, hdrop cs.reverse (by simpa using h), List.reverse_reverse]

/-! ### Keys -/

/-- Two private keys fit together: each gives the same cipher with the public key of the other one. -/
def CredentialSuite.Fits (suite : CredentialSuite) (k l : CredentialKey) : Prop :=
  ∃ cipher, suite.agree k (suite.publicKey l) = some cipher ∧ suite.agree l (suite.publicKey k) = some cipher

/-- The key that is shared with the owner of a public key is derived from the text of it. -/
theorem CredentialKey.derive_publicText {suite : CredentialSuite} {k l : CredentialKey} {cipher : CredentialCipher}
    (h : suite.agree k (suite.publicKey l) = some cipher) : k.derive suite (l.publicText suite) = .ok cipher := by
  have hbytes : Base64.bytes? (Text.trim (l.publicText suite).toList) = some (suite.publicKey l) := by
    rw [publicText, Base64.encode, String.toList_ofList,
      Text.trim_of_forall fun _ => Base64.isBlank_of_mem_letters, Base64.bytes?_letters]
  simp only [derive, hbytes, h]

/-! ### Networks -/

namespace CredentialCipher

/-- A sealed text is opened. -/
lemma decrypt_encrypt (c : CredentialCipher) (s : String) : c.decrypt (c.encrypt s) = .ok s := by
  simp only [decrypt, encrypt, Base64.decode_encode, apply_apply, Utf8.decode_encode]

/-- A description with sealed credentials is opened, and names the session. -/
theorem openNetwork_sealNetwork (c : CredentialCipher) (info : NetworkInfo) (id key : String) :
    c.openNetwork (c.sealNetwork info id key) =
      .ok { info with id := some id, key := none, catShare := some 1 } := by
  simp only [openNetwork, sealNetwork, NetworkInfo.sealed, decrypt_encrypt]
  rfl

end CredentialCipher

end DirectShare
