import Mathlib
import DirectShare.Crypto.Standard
import DirectShare.Proofs.Session.Delivery
import DirectShare.Proofs.Wire.Bodies

/-!
# Records in bodies

A record that one side sends as the body of a frame is the one that the other side reads. The body is written as a
JSON text, sealed if there is a key, put into a frame and taken apart again. What is written and what is read are
decided field by field, and apart from each other; so this is a fact about every record of every kind.

`Channel.InStep` says that a channel can open what another one seals, and `Channel.InStep.exists_openBody`
that both stay in step. A record that is `Channel.Conveys`ed is read as it was sent; `Channel.conveys` proves
that of every record that is read back from its own text. `Channel.records_survive` names those that the sides
send.
-/

namespace DirectShare

namespace Provider

/-- Every body can be sealed with the standard provider. -/
lemma isSealable_standard (ch : Channel) : ch.IsSealable standard := fun _ _ _ _ _ _ _ => ⟨_, rfl⟩

/-- The standard provider opens what it has sealed. -/
lemma opensSealed_standard : standard.OpensSealed := by
  intro key nonce header plaintext ciphertext hencrypt
  cases hencrypt
  simp only [standard, Standard.decrypt, Gcm.decrypt?_encrypt]

end Provider

namespace Channel

variable {p : Provider} {kind : Frame.Kind} {sequence : UInt32} {action : Action} {body : Json}
  {payload : Frame.Payload} {bytes : Bytes} {a a' b : Channel}

/-! ### Channels in step -/

/-- What the first channel seals the second one can open: neither has a key, or they are the two sides of the same
key, and as many texts were opened as were sealed. -/
inductive InStep (a b : Channel) : Prop
  | plain : a.established? = none → b.established? = none → InStep a b
  | keyed {c d : CryptoContext} {key : SharedKey} : a.crypto = some c → c.key = some key → b.crypto = some d →
      d.key = some key → d.role = c.role.peer → d.received = c.sent → InStep a b

/-- Only the shares in the encryption are in step, whatever the numbers are. -/
lemma InStep.of_crypto {a' b' : Channel} (h : InStep a b) (ha : a'.crypto = a.crypto) (hb : b'.crypto = b.crypto) :
    InStep a' b' := by
  cases h with
  | plain hnone hnone' =>
    apply InStep.plain
    · rw [established?, ha]
      exact hnone
    · rw [established?, hb]
      exact hnone'
  | keyed hc hk hd hk' hrole hcount => exact .keyed (ha.trans hc) hk (hb.trans hd) hk' hrole hcount

/-- Where one channel leaves bodies readable, a channel in step takes them readable. -/
lemma InStep.openable (h : InStep a b) (hplain : a.established? = none ∨ action = .versionNegotiation) :
    b.established? = none ∨ action = .versionNegotiation := by
  obtain hnone | hversion := hplain
  · cases h with
    | plain _ hb => exact .inl hb
    | keyed hc hk =>
      rw [established?_eq_some.2 ⟨hc, _, hk⟩] at hnone
      cases hnone
  · exact .inr hversion

/-- Counting a text on both sides makes no difference in the other direction. -/
lemma InStep.counted {c d : CryptoContext} {key : SharedKey} (h : InStep b a) (hc : a.crypto = some c)
    (hk : c.key = some key) (hd : b.crypto = some d) :
    InStep { b with crypto := some d.afterOpening } { a with crypto := some c.afterSealing } := by
  cases h with
  | plain _ ha =>
    rw [established?_eq_some.2 ⟨hc, key, hk⟩] at ha
    cases ha
  | keyed hd' hk₁ hc' hk₂ hrole hcount =>
    obtain rfl := Option.some.inj (hd.symm.trans hd')
    obtain rfl := Option.some.inj (hc.symm.trans hc')
    exact .keyed rfl hk₁ rfl hk₂ hrole hcount

/-- What was sealed is opened, and the channels stay in step. -/
theorem InStep.exists_openBody (hp : p.OpensSealed) (h : InStep a b) (hbody : body.IsReadable Json.maxLevels)
    (hseal : sealBody p kind sequence action (some body) a = .ok payload a') :
    payload.IsReadable ∧ ∃ b', openBody p ⟨kind, sequence, action, payload⟩ b = .ok (some body) b' ∧
      InStep a' b' ∧ (InStep b a → InStep b' a') := by
  by_cases hplain : a.established? = none ∨ action = .versionNegotiation
  · rw [sealBody_plain hplain] at hseal
    cases hseal
    exact ⟨hbody, b, openBody_plain rfl (h.openable hplain), h, id⟩
  · cases h with
    | plain ha => exact absurd (.inl ha) hplain
    | @keyed c d key hc hk hd hk' hrole hcount =>
      obtain ⟨hread, rfl, hopen⟩ := openBody_of_sealBody hc hk hd hk' hrole hcount hbody (not_or.1 hplain).2
        (fun _ => hp.reopens _) hseal
      refine ⟨hread, _, hopen, ?_, fun hback => hback.counted hc hk hd⟩
      have hcount' : d.afterOpening.received = c.afterSealing.sent := congrArg (· + 1) hcount
      exact .keyed (c := c.afterSealing) (d := d.afterOpening) rfl hk rfl hk' hrole hcount'

/-! ### Records -/

section Records

variable {α : Type} [Json.Record α] {x : α}

/-- The record is what the other side reads, in an action as in an acknowledgement, and both sides stay in step. -/
structure Conveys (p : Provider) (x : α) : Prop where
  /-- It can be sent in an action, where no other one waits and neither numbers nor the key are used up. -/
  sendsAction : ∀ action (a : Channel), a.IsSealable p → a.HasRoom → a.pending = none →
    a.nextSequence.toNat + 1 < UInt32.size →
      ∃ bytes a', sendAction p action (some (Json.Record.toJson x)) a = .ok bytes a'
  /-- It can be sent in an acknowledgement, where the key is not used up. -/
  sendsAck : ∀ sequence action (a : Channel), a.IsSealable p → a.HasRoom →
    ∃ bytes a', sendAck p sequence action (some (Json.Record.toJson x)) a = .ok bytes a'
  /-- It is read from an action whose number is a new one. -/
  readsAction : ∀ action a b bytes a', InStep a b → (∀ n, b.lastPeerSequence = some n → n < a.nextSequence) →
    sendAction p action (some (Json.Record.toJson x)) a = .ok bytes a' →
      ∃ body b', receive p bytes b = .ok (.action a.nextSequence action body) b' ∧ readBody action body = .ok x ∧
        InStep a' b' ∧ (InStep b a → InStep b' a')
  /-- It is read from an acknowledgement that is waited for. -/
  readsAck : ∀ sequence action a b bytes a', InStep a b → b.pending = some (sequence, action) →
    sendAck p sequence action (some (Json.Record.toJson x)) a = .ok bytes a' →
      ∃ body b', receive p bytes b = .ok (.ack action body) b' ∧ readBody action body = .ok x ∧
        InStep a' b' ∧ (InStep b a → InStep b' a')

/-- Every record that is read back from its own text is conveyed. -/
theorem conveys (hp : p.OpensSealed) (hof : Json.Record.ofJson? (Json.Record.toJson x) = some x)
    (hbody : (Json.Record.toJson x).IsReadable Json.maxLevels) : Conveys p x where
  sendsAction action _ hencrypt hroom hpending hnext :=
    exists_sendAction hencrypt hroom hpending hnext action (Json.Record.toJson x)
  sendsAck sequence action _ hencrypt hroom := exists_sendAck hencrypt hroom sequence action (Json.Record.toJson x)
  readsAction := by
    intro action a b bytes a' hstep hnew hsend
    obtain ⟨payload, a₁, -, -, hseal, rfl, rfl⟩ := sendAction_ok hsend
    have hnumbered : InStep { a with nextSequence := a.nextSequence + 1 } b := hstep.of_crypto rfl rfl
    obtain ⟨hread, b', hopen, hforth, hback⟩ := hnumbered.exists_openBody hp hbody hseal
    refine ⟨_, _, receive_of_action hread rfl hnew hopen, readBody_of_ofJson? hof, hforth.of_crypto rfl rfl, ?_⟩
    intro hother
    exact (hback (hother.of_crypto rfl rfl)).of_crypto rfl rfl
  readsAck := by
    intro sequence action a b bytes a' hstep hpending hsend
    obtain ⟨payload, hseal, rfl⟩ := sendAck_ok hsend
    obtain ⟨hread, b', hopen, hforth, hback⟩ := hstep.exists_openBody hp hbody hseal
    refine ⟨_, _, receive_of_ack hread rfl hpending hopen, readBody_of_ofJson? hof, hforth.of_crypto rfl rfl, ?_⟩
    intro hother
    exact (hback hother).of_crypto rfl rfl

end Records

/-- Offers, announcements and reports are read as they were sent, and descriptions as they were written. -/
theorem records_survive (hp : p.OpensSealed) :
    (∀ offer : VersionOffer, Conveys p offer) ∧ (∀ request : SendRequest, Conveys p request) ∧
      (∀ report : StatusReport, Conveys p report) ∧
      (∀ info : DeviceInfo, DeviceInfo.decode (Json.Record.encode info) = .ok info) ∧
      ∀ info : NetworkInfo, NetworkInfo.decode (Json.Record.encode info) = .ok info := by
  refine ⟨?_, ?_, ?_, DeviceInfo.decode_encode, NetworkInfo.decode_encode⟩
  · intro offer
    exact conveys hp offer.ofJson?_toJson (offer.isReadable_toJson.mono (by decide))
  · intro request
    exact conveys hp request.ofJson?_toJson (request.isReadable_toJson.mono (by decide))
  · intro report
    exact conveys hp report.ofJson?_toJson (report.isReadable_toJson.mono (by decide))

/-- A report with the older name of its task and an unknown outcome, in an action under a key. -/
theorem records_survive_report :
    let report : StatusReport := { id := some "t", code := -1 }
    let a : Channel := { nextSequence := 100, crypto := some (.keyed .receiver 0 0 ⟨List.replicate 32 7⟩) }
    let b : Channel := { nextSequence := 2, crypto := some (.keyed .sender 0 0 ⟨List.replicate 32 7⟩) }
    ∃ bytes a' body b', sendAction .standard .status (some (Json.Record.toJson report)) a = .ok bytes a' ∧
      receive .standard bytes b = .ok (.action 100 .status body) b' ∧ readBody .status body = .ok report := by
  intro report a b
  obtain ⟨-, -, hreports, -⟩ := records_survive Provider.opensSealed_standard
  have hconveys := hreports report
  have hroom : a.HasRoom := by
    rintro c ⟨⟩
    decide
  obtain ⟨bytes, a', hsend⟩ := hconveys.sendsAction .status a (Provider.isSealable_standard a) hroom rfl (by decide)
  obtain ⟨body, b', hreceive, hread, -⟩ :=
    hconveys.readsAction .status a b bytes a' (.keyed rfl rfl rfl rfl rfl rfl) nofun hsend
  exact ⟨bytes, a', body, b', hsend, hreceive, hread⟩

end Channel

end DirectShare
