import Mathlib
import DirectShare.Proofs.Json.Fields
import DirectShare.Proofs.Session.Channel

/-!
# Delivery

A frame that one channel sends is received by a channel of the other side that is in step with it:
whose share in the encryption has the same key, has opened as many texts as the other one has sealed,
and waits for the frame if it is an acknowledgement.

The assumptions on a provider are `Provider.Cooperates`, `Provider.OpensSealed` and, for one sealing,
`Provider.Reopens`; `Channel.IsSealable` and `Channel.HasRoom` say that the next body can be sealed. Under
these an action can be sent (`Channel.exists_sendAction`, `Channel.sendAction_keyed`), what one side has
sealed the other one opens (`Channel.openBody_of_sealBody`), and what was sent is received
(`Channel.receive_sendAction`).
-/

namespace DirectShare

namespace Provider

/-- Key agreement and sealing succeed, and two owners of generated key pairs agree on the same key. -/
structure Cooperates (p : Provider) : Prop where
  /-- Key agreement is symmetric on generated key pairs. -/
  agrees : ∀ a b x y, p.generate a = .ok x → p.generate b = .ok y →
    ∃ key, p.agree x y.publicValue = .ok key ∧ p.agree y x.publicValue = .ok key
  /-- Everything can be sealed. -/
  encrypts : ∀ key nonce header plaintext,
    ∃ ciphertext, p.encrypt key nonce header plaintext = .ok ciphertext

/-- What was sealed can be opened. -/
def OpensSealed (p : Provider) : Prop :=
  ∀ key nonce header plaintext ciphertext, p.encrypt key nonce header plaintext = .ok ciphertext →
    p.decrypt key nonce header ciphertext = .ok plaintext

/-- The one sealing can be opened, if it is made. -/
def Reopens (p : Provider) (x : Sealing) : Prop :=
  p.encrypt x.key x.nonce x.header x.plaintext = .ok x.ciphertext →
    p.decrypt x.key x.nonce x.header x.ciphertext = .ok x.plaintext

/-- A provider that opens what was sealed opens each sealing again. -/
lemma OpensSealed.reopens {p : Provider} (h : p.OpensSealed) (x : Sealing) : p.Reopens x := h _ _ _ _ _

end Provider

/-- The share of a side under a key, with how many texts it has sealed and opened. -/
def CryptoContext.keyed (role : Role) (sent received : UInt32) (key : SharedKey) : CryptoContext :=
  { role, keyPair := none, key := some key, sent, received }

namespace Channel

variable {p : Provider} {role : Role} {key? : Option SharedKey} {sent received : UInt32} {kind : Frame.Kind}
  {sequence : UInt32} {action : Action} {body : Json} {payload : Frame.Payload} {bytes : Bytes} {ch ch' : Channel}

/-- A channel without a share has none. -/
lemma with_crypto_none (h : ch.crypto = none) : { ch with crypto := none } = ch := by
  rw [← h]

/-- A channel whose share has no key is not established. -/
lemma established?_unkeyed (h : ∀ c, ch.crypto = some c → c.key = none) : ch.established? = none := by
  cases hc : ch.established? with
  | none => rfl
  | some c =>
    obtain ⟨hcrypto, key, hkey⟩ := established?_eq_some.1 hc
    rw [h c hcrypto] at hkey
    cases hkey

/-! ### Sending -/

/-- Everything can be sealed under the key of a channel, if it has one. -/
def IsSealable (p : Provider) (ch : Channel) : Prop :=
  ∀ c key, ch.crypto = some c → c.key = some key →
    ∀ nonce header plaintext, ∃ ciphertext, p.encrypt key nonce header plaintext = .ok ciphertext

/-- The key of a channel is not used up, if it has one. -/
def HasRoom (ch : Channel) : Prop := ∀ c, ch.crypto = some c → c.sent.toNat + 1 < UInt32.size

/-- Where there is room, any body can be sealed. -/
lemma exists_sealBody (hp : ch.IsSealable p) (hroom : ch.HasRoom) (kind : Frame.Kind) (sequence : UInt32)
    (action : Action) (body : Json) :
    ∃ payload ch', sealBody p kind sequence action (some body) ch = .ok payload ch' := by
  obtain hplain | ⟨c, key, hc, hk, ha⟩ := plain_or_keyed ch action
  · exact ⟨_, _, sealBody_plain hplain⟩
  · obtain ⟨ciphertext, hencrypt⟩ := hp c key hc hk (CryptoContext.nonce c.role sequence c.sent)
      (Utf8.encode (String.ofList (Frame.headerChars kind sequence action))) (Utf8.encode body.render)
    refine ⟨.sealed ciphertext, { ch with crypto := some c.afterSealing }, ?_⟩
    rw [sealBody_keyed hc hk ha, if_pos (hroom c hc)]
    simp only [Sealing.ofBody, hencrypt]

/-- Where nothing is waited for and there is room, any action can be sent. -/
theorem exists_sendAction (hp : ch.IsSealable p) (hroom : ch.HasRoom) (hpending : ch.pending = none)
    (hnext : ch.nextSequence.toNat + 1 < UInt32.size) (action : Action) (body : Json) :
    ∃ bytes ch', sendAction p action (some body) ch = .ok bytes ch' := by
  have hp' : IsSealable p { ch with nextSequence := ch.nextSequence + 1 } := hp
  have hroom' : HasRoom { ch with nextSequence := ch.nextSequence + 1 } := hroom
  obtain ⟨payload, ch', hseal⟩ := exists_sealBody hp' hroom' .action ch.nextSequence action body
  exact ⟨_, _, sendAction_of_sealBody hpending hnext hseal⟩

/-- Where there is room, any acknowledgement can be sent. -/
lemma exists_sendAck (hp : ch.IsSealable p) (hroom : ch.HasRoom) (sequence : UInt32) (action : Action) (body : Json) :
    ∃ bytes ch', sendAck p sequence action (some body) ch = .ok bytes ch' := by
  obtain ⟨payload, ch', hseal⟩ := exists_sealBody hp hroom .ack sequence action body
  exact ⟨_, _, sendAck_of_sealBody hseal⟩

/-- A body can be sealed where the key is not used up. -/
lemma sealBody_shared (hp : p.Cooperates) (hcrypto : ch.crypto = key?.map (.keyed role sent received))
    (hsent : sent.toNat + 1 < UInt32.size) (ha : action ≠ .versionNegotiation) :
    ∃ payload, sealBody p kind sequence action (some body) ch =
      .ok payload { ch with crypto := key?.map (.keyed role (sent + 1) received) } := by
  cases key? with
  | none =>
    have hest : ch.established? = none := established?_unkeyed (by simp [hcrypto])
    refine ⟨.json body, ?_⟩
    rw [sealBody_plain (.inl hest)]
    exact congrArg _ (with_crypto_none hcrypto).symm
  | some key =>
    obtain ⟨ciphertext, hencrypt⟩ := hp.encrypts key (CryptoContext.nonce role sequence sent)
      (Utf8.encode (String.ofList (Frame.headerChars kind sequence action))) (Utf8.encode body.render)
    refine ⟨.sealed ciphertext, ?_⟩
    rw [sealBody_keyed hcrypto rfl ha]
    simp only [CryptoContext.keyed, if_pos hsent, Sealing.ofBody, hencrypt]
    rfl

/-- An action can be sent where no other one waits and neither numbers nor the key are used up. -/
theorem sendAction_keyed (hp : p.Cooperates) (hcrypto : ch.crypto = key?.map (.keyed role sent received))
    (hsent : sent.toNat + 1 < UInt32.size) (ha : action ≠ .versionNegotiation)
    (hpending : ch.pending = none) (hnext : ch.nextSequence.toNat + 1 < UInt32.size) :
    ∃ bytes, sendAction p action (some body) ch =
      .ok bytes
        { ch with
          nextSequence := ch.nextSequence + 1
          pending := some (ch.nextSequence, action)
          crypto := key?.map (.keyed role (sent + 1) received) } := by
  have hcounted : Channel.crypto { ch with nextSequence := ch.nextSequence + 1 } =
      key?.map (.keyed role sent received) := hcrypto
  obtain ⟨payload, hseal⟩ := sealBody_shared hp hcounted hsent ha
  exact ⟨_, sendAction_of_sealBody hpending hnext hseal⟩

/-- An action that negotiates a version is sent readable. -/
lemma sendAction_version (hpending : ch.pending = none) (hnext : ch.nextSequence.toNat + 1 < UInt32.size) :
    sendAction p .versionNegotiation (some body) ch =
      .ok (Frame.encode ⟨.action, ch.nextSequence, .versionNegotiation, .json body⟩)
        { ch with
          nextSequence := ch.nextSequence + 1
          pending := some (ch.nextSequence, .versionNegotiation) } :=
  sendAction_of_sealBody hpending hnext (sealBody_plain (.inr rfl))

/-- An acknowledgement that negotiates a version is sent readable. -/
lemma sendAck_version :
    sendAck p sequence .versionNegotiation (some body) ch =
      .ok (Frame.encode ⟨.ack, sequence, .versionNegotiation, .json body⟩) ch :=
  sendAck_of_sealBody (sealBody_plain (.inr rfl))

/-- An acknowledgement without a body is sent as it is. -/
lemma sendAck_empty :
    sendAck p sequence action none ch = .ok (Frame.encode ⟨.ack, sequence, action, .empty⟩) ch := rfl

/-! ### Receiving -/

/-- An action that negotiates a version is received if its number increases. -/
lemma receive_version (hbody : body.IsReadable Json.maxLevels)
    (hlast : ∀ n, ch.lastPeerSequence = some n → n < sequence) :
    receive p (Frame.encode ⟨.action, sequence, .versionNegotiation, .json body⟩) ch =
      .ok (.action sequence .versionNegotiation (some body)) { ch with lastPeerSequence := some sequence } :=
  receive_of_action (f := ⟨.action, sequence, .versionNegotiation, .json body⟩) hbody rfl hlast
    (openBody_plain rfl (.inr rfl))

/-- An acknowledgement that negotiates a version is received if it is waited for. -/
lemma receive_versionAck (hbody : body.IsReadable Json.maxLevels)
    (hpending : ch.pending = some (sequence, .versionNegotiation)) :
    receive p (Frame.encode ⟨.ack, sequence, .versionNegotiation, .json body⟩) ch =
      .ok (.ack .versionNegotiation (some body)) { ch with pending := none } :=
  receive_of_ack (f := ⟨.ack, sequence, .versionNegotiation, .json body⟩) hbody rfl hpending
    (openBody_plain rfl (.inr rfl))

/-- An acknowledgement without a body is received if it is waited for. -/
lemma receive_ack (hpending : ch.pending = some (sequence, action)) :
    receive p (Frame.encode ⟨.ack, sequence, action, .empty⟩) ch =
      .ok (.ack action none) { ch with pending := none } :=
  receive_of_ack (f := ⟨.ack, sequence, action, .empty⟩) trivial rfl hpending (openBody_empty rfl)

/-- What one side of a key has sealed is opened by the other side, if that has opened as many texts before. -/
theorem openBody_of_sealBody {other : Channel} {c d : CryptoContext} {key : SharedKey} (hc : ch.crypto = some c)
    (hk : c.key = some key) (hd : other.crypto = some d) (hk' : d.key = some key) (hrole : d.role = c.role.peer)
    (hcount : d.received = c.sent) (hbody : body.IsReadable Json.maxLevels) (ha : action ≠ .versionNegotiation)
    (ho : ∀ ciphertext, p.Reopens (.ofBody key c.role c.sent kind sequence action body ciphertext))
    (hseal : sealBody p kind sequence action (some body) ch = .ok payload ch') :
    payload.IsReadable ∧ ch' = { ch with crypto := some c.afterSealing } ∧
      openBody p ⟨kind, sequence, action, payload⟩ other =
        .ok (some body) { other with crypto := some d.afterOpening } := by
  rw [sealBody_keyed hc hk ha] at hseal
  split_ifs at hseal
  simp only [Sealing.ofBody] at hseal
  split at hseal
  · next ciphertext hencrypt =>
    cases hseal
    have hopen : p.decrypt key (CryptoContext.nonce d.role.peer sequence d.received)
        (Utf8.encode (Frame.header ⟨kind, sequence, action, .sealed ciphertext⟩)) ciphertext =
          .ok (Utf8.encode body.render) := by
      rw [hrole, Role.peer_peer, hcount]
      exact ho ciphertext hencrypt
    exact ⟨trivial, rfl, openBody_sealed rfl hd hk' hopen hbody⟩
  · cases hseal

/-- An action that was sent is received by a channel that is in step with the sending one. -/
theorem receive_sendAction {other : Channel} {sent' : UInt32}
    (hcrypto : ch.crypto = key?.map (.keyed role sent received))
    (hother : other.crypto = key?.map (.keyed role.peer sent' sent))
    (hbody : body.IsReadable Json.maxLevels) (ha : action ≠ .versionNegotiation)
    (hlast : ∀ n, other.lastPeerSequence = some n → n < ch.nextSequence)
    (hsend : sendAction p action (some body) ch = .ok bytes ch')
    (ho : ∀ key ciphertext, key? = some key →
      p.Reopens (.ofBody key role sent .action ch.nextSequence action body ciphertext)) :
    receive p bytes other =
      .ok (.action ch.nextSequence action (some body))
        { other with
          lastPeerSequence := some ch.nextSequence
          crypto := key?.map (.keyed role.peer sent' (sent + 1)) } := by
  obtain ⟨payload, ch'', -, -, hseal, rfl, -⟩ := sendAction_ok hsend
  cases key? with
  | none =>
    have hest : Channel.established? { ch with nextSequence := ch.nextSequence + 1 } = none :=
      established?_unkeyed (by simp [hcrypto])
    rw [sealBody_plain (.inl hest)] at hseal
    cases hseal
    have hest' : other.established? = none := established?_unkeyed (by simp [hother])
    rw [receive_of_action (f := ⟨.action, ch.nextSequence, action, .json body⟩) hbody rfl hlast
      (openBody_plain rfl (.inl hest'))]
    simp only [Option.map_none] at hother ⊢
    rw [← hother]
  | some key =>
    have hopens : ∀ ciphertext, p.Reopens (.ofBody key role sent .action ch.nextSequence action body ciphertext) :=
      fun ciphertext => ho key ciphertext rfl
    have hcounted : Channel.crypto { ch with nextSequence := ch.nextSequence + 1 } = some _ := hcrypto
    obtain ⟨hread, -, hopen⟩ := openBody_of_sealBody hcounted rfl hother rfl rfl rfl hbody ha hopens hseal
    exact receive_of_action (f := ⟨.action, ch.nextSequence, action, payload⟩) hread rfl hlast hopen

end Channel

end DirectShare
