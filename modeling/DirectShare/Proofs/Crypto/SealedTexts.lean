import Mathlib
import DirectShare.Proofs.Crypto.Credentials

/-!
# Sealed texts and what they hold

A text is sealed byte by byte: to each byte of its UTF-8 one byte is added that depends on the key and the place
alone, and what comes of it is written in Base64. Each step is undone in one way only, so a sealed text holds one
text, a text is sealed in one way under a key, and all that is not a sealed text is refused. Nothing is asked of
the block cipher.

`CredentialCipher.apply_eq_mapIdx` shows that the stream adds to each byte the one that `CredentialCipher.pad`
gives for its place. With Base64 and UTF-8, which are undone in one way only,
`CredentialCipher.decrypt_eq_ok_iff` and `CredentialCipher.decrypt_eq_error_iff` tell which texts are opened
and which are refused; `CredentialCipher.openNetwork_eq_ok_iff` tells it of whole descriptions.
`CredentialCipher.opens_what_is_sealed` collects what follows.
-/

namespace DirectShare

/-- The byte in a place of a stream is one of the cipher of the counter for its block. -/
lemma Block.getElem?_stream (cipher next : Block → Block) {n i : Nat} (counter : Block) (h : i < 16 * n) :
    (stream cipher next n counter)[i]? = (cipher (next^[i / 16] counter)).toBytes[i % 16]? := by
  induction n generalizing i counter with
  | zero => cases h
  | succ n ih =>
    rw [stream]
    obtain hlt | hle := Nat.lt_or_ge i 16
    · rw [List.getElem?_append_left (by simpa using hlt), Nat.div_eq_of_lt hlt, Nat.mod_eq_of_lt hlt]
      rfl
    · -- a place after the first block is one in the rest of the stream, a block earlier
      have hdiv : i / 16 = (i - 16) / 16 + 1 := by omega
      have hmod : i % 16 = (i - 16) % 16 := by omega
      rw [List.getElem?_append_right (by simpa using hle), length_toBytes, ih _ (by omega), hdiv, hmod,
        Function.iterate_succ_apply]

namespace CredentialCipher

variable {c : CredentialCipher} {s t : String} {bs : Bytes} {info opened : NetworkInfo}

/-! ### The stream -/

/-- The counter for a block of the text. It goes on from the first one, and may wrap. -/
def counter (block : Nat) : Block := firstCounter + BitVec.ofNat 128 block

/-- The byte that is added to the byte in the given place of a text. -/
def pad (c : CredentialCipher) (i : Nat) : UInt8 := (c.encipher (counter (i / 16))).toBytes.getD (i % 16) 0

/-- The counters are the numbers from the first one on. -/
lemma iterate_firstCounter (n : Nat) : (· + 1)^[n] firstCounter = counter n := by
  induction n with
  | zero => rfl
  | succ n ih =>
    rw [Function.iterate_succ_apply', ih, counter, counter, BitVec.ofNat_add, BitVec.add_assoc]
    rfl

/-- To each byte the byte for its place is added, in whatever block it stands. -/
theorem apply_eq_mapIdx (c : CredentialCipher) (bs : Bytes) : c.apply bs = bs.mapIdx fun i b => b ^^^ c.pad i := by
  apply List.ext_getElem?
  intro i
  rw [List.getElem?_mapIdx, apply, Block.counterMode, Bytes.xor, List.getElem?_zipWith, Block.keystream]
  cases hi : bs[i]? with
  | none => rfl
  | some b =>
    have hlt : i < bs.length := (List.getElem?_eq_some_iff.1 hi).1
    have hbyte : i % 16 < (c.encipher (counter (i / 16))).toBytes.length := by simp; omega
    -- the stream goes on to the end of the last block, so that it covers every place
    rw [Block.getElem?_stream _ _ _ (by omega), iterate_firstCounter, List.getElem?_eq_getElem hbyte, pad,
      List.getD_eq_getElem _ _ hbyte]
    rfl

/-! ### Texts -/

/-- A text is opened exactly if it is what the result is sealed as. -/
theorem decrypt_eq_ok_iff : c.decrypt t = .ok s ↔ t = c.encrypt s := by
  constructor
  · intro h
    rw [decrypt] at h
    split at h
    · cases h
    next bs hbytes =>
    split at h
    · cases h
    next s' htext =>
    cases h
    rw [encrypt, ← Utf8.decode_eq_some_iff.1 htext, apply_apply]
    exact Base64.decode_eq_some_iff.1 hbytes
  · rintro rfl
    exact decrypt_encrypt c s

/-- A text that is not opened is refused for what it is. -/
lemma exists_encoding_of_decrypt {e : CryptoError} (h : c.decrypt t = .error e) : ∃ detail, e = .encoding detail := by
  rw [decrypt] at h
  split at h
  · cases h
    exact ⟨_, rfl⟩
  · split at h
    · cases h
      exact ⟨_, rfl⟩
    · cases h

/-- A text is refused exactly if it is no Base64, or if it holds no UTF-8. -/
theorem decrypt_eq_error_iff : (∃ detail, c.decrypt t = .error (.encoding detail)) ↔
    (∀ bs, t ≠ Base64.encode bs) ∨ ∃ bs, t = Base64.encode bs ∧ ∀ s, Utf8.encode s ≠ c.apply bs := by
  constructor
  · rintro ⟨detail, h⟩
    have hno : ∀ s, t ≠ Base64.encode (c.apply (Utf8.encode s)) := fun s hs => by
      rw [decrypt_eq_ok_iff.2 hs] at h
      cases h
    by_cases hbytes : ∃ bs, t = Base64.encode bs
    · obtain ⟨bs, rfl⟩ := hbytes
      refine .inr ⟨bs, rfl, fun s hs => hno s ?_⟩
      rw [hs, apply_apply]
    · exact .inl fun bs hbs => hbytes ⟨bs, hbs⟩
  · intro hno
    cases h : c.decrypt t with
    | error e =>
      obtain ⟨detail, rfl⟩ := exists_encoding_of_decrypt h
      exact ⟨detail, rfl⟩
    | ok s =>
      obtain rfl := decrypt_eq_ok_iff.1 h
      obtain hbytes | ⟨bs, hbs, htext⟩ := hno
      · exact absurd rfl (hbytes _)
      · rw [← Base64.encode_injective hbs, apply_apply] at htext
        exact absurd rfl (htext s)

/-! ### Descriptions -/

/-- A description is opened exactly if its credentials are those of the result, sealed. -/
theorem openNetwork_eq_ok_iff : c.openNetwork info = .ok opened ↔
    info.ssid = c.encrypt opened.ssid ∧ info.psk = c.encrypt opened.psk ∧ info.mac = c.encrypt opened.mac ∧
      opened = { info with ssid := opened.ssid, psk := opened.psk, mac := opened.mac, key := none } := by
  simp only [← decrypt_eq_ok_iff, openNetwork, bind, Except.bind]
  cases c.decrypt info.ssid with
  | error e => simp
  | ok ssid =>
    cases c.decrypt info.psk with
    | error e => simp
    | ok psk =>
      cases c.decrypt info.mac with
      | error e => simp
      | ok mac =>
        simp only [pure, Except.pure, Except.ok.injEq]
        constructor
        · rintro rfl
          exact ⟨rfl, rfl, rfl, rfl⟩
        · rintro ⟨rfl, rfl, rfl, h⟩
          exact h.symm

/-- A description is refused as a whole exactly if one of its credentials is. -/
lemma openNetwork_eq_error_iff : (∃ detail, c.openNetwork info = .error (.encoding detail)) ↔
    ∃ text ∈ [info.ssid, info.psk, info.mac], ∃ detail, c.decrypt text = .error (.encoding detail) := by
  simp only [List.mem_cons, List.not_mem_nil, or_false, exists_eq_or_imp, exists_eq_left, openNetwork, bind,
    Except.bind]
  cases hssid : c.decrypt info.ssid with
  | error e =>
    obtain ⟨detail, rfl⟩ := exists_encoding_of_decrypt hssid
    simp
  | ok ssid =>
    cases hpsk : c.decrypt info.psk with
    | error e =>
      obtain ⟨detail, rfl⟩ := exists_encoding_of_decrypt hpsk
      simp
    | ok psk =>
      cases hmac : c.decrypt info.mac with
      | error e =>
        obtain ⟨detail, rfl⟩ := exists_encoding_of_decrypt hmac
        simp
      | ok mac => simp [pure, Except.pure]

/-- **Sealing is exactly undone by opening.** A text is sealed byte by byte and opened again; a text is opened to
what it is the sealing of, and refused if it is no Base64 or holds no UTF-8. A description with sealed credentials
is opened to what was sealed, and refused as a whole if one of its credentials is. -/
theorem opens_what_is_sealed (c : CredentialCipher) :
    (∀ s, c.encrypt s = Base64.encode ((Utf8.encode s).mapIdx fun i b => b ^^^ c.pad i)) ∧
    (∀ s, c.decrypt (c.encrypt s) = .ok s) ∧
    (∀ t s, c.decrypt t = .ok s ↔ t = c.encrypt s) ∧
    (∀ t, (∃ detail, c.decrypt t = .error (.encoding detail)) ↔ (∀ bs, t ≠ Base64.encode bs) ∨
      ∃ bs, t = Base64.encode bs ∧ ∀ s, Utf8.encode s ≠ bs.mapIdx fun i b => b ^^^ c.pad i) ∧
    (∀ info id key, c.openNetwork (c.sealNetwork info id key) =
      .ok { info with id := some id, key := none, catShare := some 1 }) ∧
    (∀ info, (∃ detail, c.openNetwork info = .error (.encoding detail)) ↔
      ∃ text ∈ [info.ssid, info.psk, info.mac], ∃ detail, c.decrypt text = .error (.encoding detail)) := by
  refine ⟨fun s => ?_, decrypt_encrypt c, fun t s => decrypt_eq_ok_iff, fun t => ?_, openNetwork_sealNetwork c,
    fun info => openNetwork_eq_error_iff⟩
  · rw [encrypt, apply_eq_mapIdx]
  · simp only [decrypt_eq_error_iff, apply_eq_mapIdx]

end CredentialCipher

end DirectShare
