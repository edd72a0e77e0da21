import Mathlib
import DirectShare.Proofs.Crypto.Sealing
import DirectShare.Proofs.Wire.Frames
import DirectShare.Session.Channel

/-!
# What channels do

For each operation of a channel, this module says what must have been the case when it succeeds, what
is left when it fails, and which sealing it makes.

How bodies are sealed and opened is told by `Channel.sealBody_ok`, `Channel.openBody_ok` and `Channel.Opens`,
which has a case for each way in which opening can end. `Channel.IsReady` and `Channel.IsInTurn` say when a
channel takes an action to send and a frame to receive; `Channel.sendAction_of_isReady` and
`Channel.receive_of_isInTurn` compute what is done then. `Channel.sendAction_ok`, `Channel.sendAck_ok` and
`Channel.receive_ok` are their inversions, and `Channel.sendAction_without` and `Channel.sendAck_without` name
the one sealing that an operation makes.
-/

namespace DirectShare

/-! ### Steps that keep their state on failure -/

namespace Steps

variable {ε σ α β : Type}

/-- One step after another: the second one sees what the first one has left. -/
@[simp] lemma bind_apply (x : EStateM ε σ α) (f : α → EStateM ε σ β) (s : σ) :
    (x >>= f) s = match x s with
      | .ok a s => f a s
      | .error e s => .error e s := rfl

/-- Giving a value leaves the state. -/
@[simp] lemma pure_apply (a : α) (s : σ) : (pure a : EStateM ε σ α) s = .ok a s := rfl

/-- Reading the state leaves it. -/
@[simp] lemma get_apply (s : σ) : (get : EStateM ε σ σ) s = .ok s s := rfl

/-- Setting the state leaves that one. -/
@[simp] lemma set_apply (s' s : σ) : (set s' : EStateM ε σ PUnit) s = .ok ⟨⟩ s' := rfl

/-- Modifying the state leaves the modified one. -/
@[simp] lemma modify_apply (f : σ → σ) (s : σ) : (modify f : EStateM ε σ PUnit) s = .ok ⟨⟩ (f s) := rfl

/-- Failing leaves the state. -/
@[simp] lemma throw_apply (e : ε) (s : σ) : (throw e : EStateM ε σ α) s = .error e s := rfl

end Steps

/-- The sealing of a body in a frame of the given kind, number and action. -/
def Sealing.ofBody (key : SharedKey) (role : Role) (counter : UInt32) (kind : Frame.Kind)
    (sequence : UInt32) (action : Action) (body : Json) (ciphertext : Bytes) : Sealing where
  key := key
  nonce := CryptoContext.nonce role sequence counter
  header := Utf8.encode (String.ofList (Frame.headerChars kind sequence action))
  plaintext := Utf8.encode body.render
  ciphertext := ciphertext

/-- The context after it has sealed a text. -/
def CryptoContext.afterSealing (c : CryptoContext) : CryptoContext := { c with sent := c.sent + 1 }

/-- The context after it has opened a text. -/
def CryptoContext.afterOpening (c : CryptoContext) : CryptoContext := { c with received := c.received + 1 }

namespace Channel

variable {p : Provider} {kind : Frame.Kind} {sequence : UInt32} {action : Action} {body : Option Json}
  {payload : Frame.Payload} {f : Frame} {bytes : Bytes} {ch ch' : Channel} {e : Failure} {x : Sealing}

/-- A share is established exactly if it is there and has a key. -/
lemma established?_eq_some {c : CryptoContext} :
    ch.established? = some c ↔ ch.crypto = some c ∧ ∃ key, c.key = some key := by
  rw [established?, Option.filter_eq_some_iff, CryptoContext.isEstablished, Option.isSome_iff_exists]

/-- A channel has its own share. -/
lemma with_crypto {c : CryptoContext} (h : ch.crypto = some c) : { ch with crypto := some c } = ch := by
  rw [← h]

/-! ### Sealing bodies -/

/-- Nothing is sealed as nothing. -/
lemma sealBody_none : sealBody p kind sequence action none ch = .ok .empty ch := rfl

/-- Without a key, and in the negotiation of a version, a body stays readable. -/
lemma sealBody_plain {b : Json} (h : ch.established? = none ∨ action = .versionNegotiation) :
    sealBody p kind sequence action (some b) ch = .ok (.json b) ch := by
  cases hc : ch.established? with
  | none => simp [sealBody, hc]
  | some c =>
    have ha : action = .versionNegotiation := by simpa [hc] using h
    simp [sealBody, hc, ha]

/-- A body is sealed where there is a key. -/
lemma sealBody_keyed {b : Json} {c : CryptoContext} {key : SharedKey} (hc : ch.crypto = some c)
    (hk : c.key = some key) (ha : action ≠ .versionNegotiation) :
    sealBody p kind sequence action (some b) ch =
      if c.sent.toNat + 1 < UInt32.size then
        let x := Sealing.ofBody key c.role c.sent kind sequence action b []
        match p.encrypt x.key x.nonce x.header x.plaintext with
        | .ok ciphertext => .ok (.sealed ciphertext) { ch with crypto := some c.afterSealing }
        | .error e => .error (.crypto e) ch
      else .error (.crypto .encryption) ch := by
  have hest : ch.established? = some c := established?_eq_some.2 ⟨hc, key, hk⟩
  simp only [sealBody, Steps.bind_apply, Steps.get_apply, hest, if_neg ha, withContext,
    CryptoContext.encrypt, hk]
  split_ifs with hsent
  · simp only [Sealing.ofBody]
    cases p.encrypt key (CryptoContext.nonce c.role sequence c.sent)
      (Utf8.encode (String.ofList (Frame.headerChars kind sequence action))) (Utf8.encode b.render) with
    | ok ciphertext => simp [CryptoContext.afterSealing, hk]
    | error e => simp [with_crypto hc]
  · simp [with_crypto hc]

/-- A body goes out as it is, or under the key of the channel. -/
lemma plain_or_keyed (ch : Channel) (action : Action) :
    (ch.established? = none ∨ action = .versionNegotiation) ∨
      ∃ c key, ch.crypto = some c ∧ c.key = some key ∧ action ≠ .versionNegotiation := by
  cases hest : ch.established? with
  | none => exact .inl (.inl rfl)
  | some c =>
    obtain ⟨hc, key, hk⟩ := established?_eq_some.1 hest
    obtain ha | ha := eq_or_ne action .versionNegotiation
    · exact .inl (.inr ha)
    · exact .inr ⟨c, key, hc, hk, ha⟩

/-- How a body was sealed. -/
theorem sealBody_ok (h : sealBody p kind sequence action body ch = .ok payload ch') :
    (body = none ∧ payload = .empty ∧ ch' = ch) ∨
    (∃ b, body = some b ∧ payload = .json b ∧ ch' = ch ∧
      (ch.established? = none ∨ action = .versionNegotiation)) ∨
    (∃ b c key ciphertext, body = some b ∧ ch.crypto = some c ∧ c.key = some key ∧
      action ≠ .versionNegotiation ∧ c.sent.toNat + 1 < UInt32.size ∧
      p.encrypt key (CryptoContext.nonce c.role sequence c.sent)
        (Utf8.encode (String.ofList (Frame.headerChars kind sequence action)))
        (Utf8.encode b.render) = .ok ciphertext ∧
      payload = .sealed ciphertext ∧ ch' = { ch with crypto := some c.afterSealing }) := by
  cases body with
  | none =>
    rw [sealBody_none] at h
    cases h
    exact .inl ⟨rfl, rfl, rfl⟩
  | some b =>
    obtain hplain | ⟨c, key, hc, hk, ha⟩ := plain_or_keyed ch action
    · rw [sealBody_plain hplain] at h
      cases h
      exact .inr (.inl ⟨b, rfl, rfl, rfl, hplain⟩)
    · rw [sealBody_keyed hc hk ha] at h
      split_ifs at h with hsent
      simp only [Sealing.ofBody] at h
      split at h
      · next ciphertext hencrypt =>
        cases h
        exact .inr (.inr ⟨b, c, key, ciphertext, rfl, hc, hk, ha, hsent, hencrypt, rfl, rfl⟩)
      · cases h

/-- A body that could not be sealed leaves the channel as it was, and the encryption is to blame. -/
lemma sealBody_failed (h : sealBody p kind sequence action body ch = .error e ch') :
    ch' = ch ∧ ∃ reason, e = .crypto reason := by
  cases body with
  | none => cases h
  | some b =>
    obtain hplain | ⟨c, key, hc, hk, ha⟩ := plain_or_keyed ch action
    · rw [sealBody_plain hplain] at h
      cases h
    · rw [sealBody_keyed hc hk ha] at h
      split_ifs at h
      · simp only at h
        split at h
        · cases h
        · cases h
          exact ⟨rfl, _, rfl⟩
      · cases h
        exact ⟨rfl, _, rfl⟩

/-- The only sealing that is made is that of the body, and it gives the payload. -/
lemma sealBody_without
    (hx : sealBody (p.without x) kind sequence action body ch ≠ sealBody p kind sequence action body ch)
    (hp : p.encrypt x.key x.nonce x.header x.plaintext = .ok x.ciphertext) :
    ∃ b c key, body = some b ∧ ch.crypto = some c ∧ c.key = some key ∧ action ≠ .versionNegotiation ∧
      x = Sealing.ofBody key c.role c.sent kind sequence action b x.ciphertext ∧
      sealBody p kind sequence action body ch =
        .ok (.sealed x.ciphertext) { ch with crypto := some c.afterSealing } := by
  cases body with
  | none => exact absurd rfl hx
  | some b =>
    obtain hplain | ⟨c, key, hc, hk, ha⟩ := plain_or_keyed ch action
    · rw [sealBody_plain hplain, sealBody_plain hplain] at hx
      exact absurd rfl hx
    · rw [sealBody_keyed hc hk ha, sealBody_keyed hc hk ha] at hx
      by_cases hsent : c.sent.toNat + 1 < UInt32.size
      · rw [if_pos hsent, if_pos hsent] at hx
        simp only [Sealing.ofBody] at hx
        by_cases hcall : key = x.key ∧ CryptoContext.nonce c.role sequence c.sent = x.nonce ∧
            Utf8.encode (String.ofList (Frame.headerChars kind sequence action)) = x.header ∧
            Utf8.encode b.render = x.plaintext
        · obtain ⟨hkey, hnonce, hheader, hplaintext⟩ := hcall
          have heq : x = Sealing.ofBody key c.role c.sent kind sequence action b x.ciphertext := by
            cases x
            simp_all [Sealing.ofBody]
          refine ⟨b, c, key, rfl, hc, hk, ha, heq, ?_⟩
          rw [sealBody_keyed hc hk ha, if_pos hsent]
          simp only [Sealing.ofBody, hkey, hnonce, hheader, hplaintext, hp]
        · rw [Provider.without_encrypt hcall] at hx
          exact absurd rfl hx
      · rw [if_neg hsent, if_neg hsent] at hx
        exact absurd rfl hx

/-- If its one sealing is refused, a body is not sealed. -/
lemma sealBody_refused {b : Json} {c : CryptoContext} {key : SharedKey} (hc : ch.crypto = some c)
    (hk : c.key = some key) (ha : action ≠ .versionNegotiation) (ciphertext : Bytes) :
    sealBody (p.without (Sealing.ofBody key c.role c.sent kind sequence action b ciphertext)) kind sequence
      action (some b) ch = .error (.crypto .encryption) ch := by
  have hrefused := Provider.without_encrypt_self p
    (Sealing.ofBody key c.role c.sent kind sequence action b ciphertext)
  rw [sealBody_keyed hc hk ha]
  split_ifs
  · simp only [Sealing.ofBody] at hrefused ⊢
    rw [hrefused]
  · rfl

/-! ### Opening bodies -/

/-- An empty payload is opened as no body. -/
lemma openBody_empty (hf : f.payload = .empty) : openBody p f ch = .ok none ch := by
  rw [openBody, hf]
  rfl

/-- A readable body is taken as it is, unless it should have been sealed. -/
lemma openBody_json {b : Json} (hf : f.payload = .json b) :
    openBody p f ch =
      if ch.established?.isSome = true ∧ f.action ≠ .versionNegotiation then .error (.plaintext f.header) ch
      else .ok (some b) ch := by
  rw [openBody, hf]
  simp only [Steps.bind_apply, Steps.get_apply]
  split_ifs <;> rfl

/-- Without a key a sealed body is refused. -/
lemma openBody_unkeyed {ciphertext : Bytes} (hf : f.payload = .sealed ciphertext) (h : ch.established? = none) :
    openBody p f ch = .error (.sealedWithoutKey f.header) ch := by
  rw [openBody, hf]
  simp only [Steps.bind_apply, Steps.get_apply, h]
  rfl

/-- A sealed body is opened where there is a key, and counted even if the text is no body. -/
lemma openBody_keyed {c : CryptoContext} {key : SharedKey} {ciphertext : Bytes}
    (hf : f.payload = .sealed ciphertext) (hc : ch.crypto = some c) (hk : c.key = some key) :
    openBody p f ch =
      match p.decrypt key (CryptoContext.nonce c.role.peer f.sequence c.received) (Utf8.encode f.header)
        ciphertext with
      | .error e => .error (.crypto e) ch
      | .ok plaintext =>
        match Json.parseBytes plaintext with
        | none => .error .sealedBody { ch with crypto := some c.afterOpening }
        | some b => .ok (some b) { ch with crypto := some c.afterOpening } := by
  have hest : ch.established? = some c := established?_eq_some.2 ⟨hc, key, hk⟩
  rw [openBody, hf]
  simp only [Steps.bind_apply, Steps.get_apply, hest, withContext, CryptoContext.decrypt, hk]
  cases p.decrypt key (CryptoContext.nonce c.role.peer f.sequence c.received) (Utf8.encode f.header)
      ciphertext with
  | error e => simp [with_crypto hc]
  | ok plaintext =>
    simp only [CryptoContext.afterOpening, hk]
    cases Json.parseBytes plaintext <;> rfl

/-- Without a key, and in the negotiation of a version, a readable body is taken. -/
lemma openBody_plain {b : Json} (hf : f.payload = .json b)
    (h : ch.established? = none ∨ f.action = .versionNegotiation) : openBody p f ch = .ok (some b) ch := by
  rw [openBody_json hf, if_neg]
  rw [not_and_or, not_not]
  simpa using h

/-- A body that was sealed under the next nonce of the other side is opened and counted. -/
lemma openBody_sealed {b : Json} {c : CryptoContext} {key : SharedKey} {ciphertext : Bytes}
    (hf : f.payload = .sealed ciphertext) (hc : ch.crypto = some c) (hk : c.key = some key)
    (hopen : p.decrypt key (CryptoContext.nonce c.role.peer f.sequence c.received)
      (Utf8.encode f.header) ciphertext = .ok (Utf8.encode b.render))
    (hb : b.IsReadable Json.maxLevels) :
    openBody p f ch = .ok (some b) { ch with crypto := some c.afterOpening } := by
  simp only [openBody_keyed hf hc hk, hopen, Json.parseBytes_render hb]

/-- What can become of the body of a frame. -/
inductive Opens (p : Provider) (f : Frame) (ch : Channel) :
    EStateM.Result Failure Channel (Option Json) → Prop
  /-- There is none. -/
  | empty : f.payload = .empty → Opens p f ch (.ok none ch)
  /-- It may come as it is. -/
  | plain {b : Json} :
      f.payload = .json b → ch.established? = none ∨ f.action = .versionNegotiation → Opens p f ch (.ok (some b) ch)
  /-- It should have been sealed. -/
  | bare {b : Json} : f.payload = .json b → Opens p f ch (.error (.plaintext f.header) ch)
  /-- It is sealed, and there is no key. -/
  | unkeyed {ciphertext : Bytes} :
      f.payload = .sealed ciphertext → Opens p f ch (.error (.sealedWithoutKey f.header) ch)
  /-- It cannot be opened under the key. -/
  | closed {ciphertext : Bytes} {reason : CryptoError} :
      f.payload = .sealed ciphertext → Opens p f ch (.error (.crypto reason) ch)
  /-- It is opened, and is no body. -/
  | unread {c : CryptoContext} {key : SharedKey} {ciphertext plaintext : Bytes} :
      f.payload = .sealed ciphertext → ch.crypto = some c → c.key = some key →
      p.decrypt key (CryptoContext.nonce c.role.peer f.sequence c.received) (Utf8.encode f.header) ciphertext =
        .ok plaintext →
      Json.parseBytes plaintext = none →
      Opens p f ch (.error .sealedBody { ch with crypto := some c.afterOpening })
  /-- It is opened and read. -/
  | read {c : CryptoContext} {key : SharedKey} {ciphertext plaintext : Bytes} {b : Json} :
      f.payload = .sealed ciphertext → ch.crypto = some c → c.key = some key →
      p.decrypt key (CryptoContext.nonce c.role.peer f.sequence c.received) (Utf8.encode f.header) ciphertext =
        .ok plaintext →
      Json.parseBytes plaintext = some b →
      Opens p f ch (.ok (some b) { ch with crypto := some c.afterOpening })

/-- Opening a body ends in one of these ways. -/
lemma opens (p : Provider) (f : Frame) (ch : Channel) : Opens p f ch (openBody p f ch) := by
  cases hf : f.payload with
  | empty =>
    rw [openBody_empty hf]
    exact .empty hf
  | json b =>
    rw [openBody_json hf]
    split_ifs with hplain
    · exact .bare hf
    · rw [not_and_or, not_not] at hplain
      exact .plain hf (by simpa using hplain)
  | «sealed» ciphertext =>
    cases hest : ch.established? with
    | none =>
      rw [openBody_unkeyed hf hest]
      exact .unkeyed hf
    | some c =>
      obtain ⟨hc, key, hk⟩ := established?_eq_some.1 hest
      rw [openBody_keyed hf hc hk]
      split
      · exact .closed hf
      · next plaintext hopen =>
        split
        · next hparse => exact .unread hf hc hk hopen hparse
        · next b hparse => exact .read hf hc hk hopen hparse

/-- How a body was opened. -/
theorem openBody_ok (h : openBody p f ch = .ok body ch') :
    (f.payload = .empty ∧ body = none ∧ ch' = ch) ∨
    (∃ b, f.payload = .json b ∧ body = some b ∧ ch' = ch ∧
      (ch.established? = none ∨ f.action = .versionNegotiation)) ∨
    (∃ ciphertext c key plaintext b, f.payload = .sealed ciphertext ∧ ch.crypto = some c ∧
      c.key = some key ∧
      p.decrypt key (CryptoContext.nonce c.role.peer f.sequence c.received) (Utf8.encode f.header)
        ciphertext = .ok plaintext ∧
      Json.parseBytes plaintext = some b ∧ body = some b ∧
      ch' = { ch with crypto := some c.afterOpening }) := by
  have hopens := opens p f ch
  rw [h] at hopens
  cases hopens with
  | empty hf => exact .inl ⟨hf, rfl, rfl⟩
  | plain hf hplain => exact .inr (.inl ⟨_, hf, rfl, rfl, hplain⟩)
  | read hf hc hk hopen hparse => exact .inr (.inr ⟨_, _, _, _, _, hf, hc, hk, hopen, hparse, rfl, rfl⟩)

/-- What is left where a body could not be opened: either nothing has changed, or what was opened is no
body. -/
lemma openBody_error (h : openBody p f ch = .error e ch') :
    (ch' = ch ∧ e ≠ .sealedBody) ∨
    (∃ ciphertext c key plaintext, f.payload = .sealed ciphertext ∧ ch.crypto = some c ∧
      c.key = some key ∧
      p.decrypt key (CryptoContext.nonce c.role.peer f.sequence c.received) (Utf8.encode f.header)
        ciphertext = .ok plaintext ∧
      Json.parseBytes plaintext = none ∧ e = .sealedBody ∧ ch' = { ch with crypto := some c.afterOpening }) := by
  have hopens := opens p f ch
  rw [h] at hopens
  cases hopens with
  | bare | unkeyed | closed => exact .inl ⟨rfl, nofun⟩
  | unread hf hc hk hopen hparse => exact .inr ⟨_, _, _, _, hf, hc, hk, hopen, hparse, rfl, rfl⟩

/-- A body is not opened because of the rules of the session, or because of the encryption. -/
lemma kind_of_openBody_error (h : openBody p f ch = .error e ch') :
    e.kind = .protocolViolation ∨ ∃ reason, e = .crypto reason := by
  have hopens := opens p f ch
  rw [h] at hopens
  cases hopens with
  | bare | unkeyed | unread => exact .inl rfl
  | closed => exact .inr ⟨_, rfl⟩

/-! ### Sending -/

/-- An acknowledgement is the frame of its sealed body. -/
lemma sendAck_eq :
    sendAck p sequence action body ch =
      match sealBody p .ack sequence action body ch with
      | .ok payload ch' => .ok (Frame.encode ⟨.ack, sequence, action, payload⟩) ch'
      | .error e ch' => .error e ch' := by
  simp only [sendAck, frame, Steps.bind_apply]
  cases sealBody p .ack sequence action body ch <;> rfl

/-- An action can be sent: no other one waits, and there is a number for it. -/
def IsReady (ch : Channel) : Prop := ch.pending = none ∧ ch.nextSequence.toNat + 1 < UInt32.size

/-- An action is a frame with the next number, which is used up even if its body cannot be sealed. -/
theorem sendAction_of_isReady (h : ch.IsReady) :
    sendAction p action body ch =
      match sealBody p .action ch.nextSequence action body { ch with nextSequence := ch.nextSequence + 1 } with
      | .ok payload ch' =>
        .ok (Frame.encode ⟨.action, ch.nextSequence, action, payload⟩)
          { ch' with pending := some (ch.nextSequence, action) }
      | .error e ch' => .error e ch' := by
  obtain ⟨next, pending, last, crypto⟩ := ch
  obtain ⟨hpending, hnext⟩ := h
  obtain rfl : pending = none := hpending
  simp only [sendAction, frame, Steps.bind_apply, Steps.get_apply, if_pos hnext, Steps.set_apply]
  cases sealBody p .action next action body ⟨next + 1, none, last, crypto⟩ <;> rfl

/-- Where no action can be sent, nothing changes, whatever its body is. -/
lemma sendAction_of_not_isReady (h : ¬ch.IsReady) (action : Action) :
    ∃ e : Failure, e.kind = .protocolViolation ∧ (∀ reason, e ≠ .crypto reason) ∧
      ∀ p body, sendAction p action body ch = .error e ch := by
  simp only [sendAction, Steps.bind_apply, Steps.get_apply]
  cases hpending : ch.pending with
  | some waiting => exact ⟨.unacknowledged action waiting.2 waiting.1, rfl, nofun, fun _ _ => rfl⟩
  | none =>
    have hnext : ¬ch.nextSequence.toNat + 1 < UInt32.size := fun hnext => h ⟨hpending, hnext⟩
    simp only [if_neg hnext]
    exact ⟨.sequenceExhausted, rfl, nofun, fun _ _ => rfl⟩

/-- If its body is sealed, an acknowledgement can be sent. -/
lemma sendAck_of_sealBody (h : sealBody p .ack sequence action body ch = .ok payload ch') :
    sendAck p sequence action body ch = .ok (Frame.encode ⟨.ack, sequence, action, payload⟩) ch' := by
  rw [sendAck_eq, h]

/-- If nothing is waited for and numbers are left, an action whose body is sealed can be sent. -/
lemma sendAction_of_sealBody (hpending : ch.pending = none)
    (hnext : ch.nextSequence.toNat + 1 < UInt32.size)
    (h : sealBody p .action ch.nextSequence action body
      { ch with nextSequence := ch.nextSequence + 1 } = .ok payload ch') :
    sendAction p action body ch = .ok (Frame.encode ⟨.action, ch.nextSequence, action, payload⟩)
      { ch' with pending := some (ch.nextSequence, action) } := by
  rw [sendAction_of_isReady ⟨hpending, hnext⟩, h]

/-- The acknowledgement of an action is a frame with the body's payload. -/
theorem sendAck_ok (h : sendAck p sequence action body ch = .ok bytes ch') :
    ∃ payload, sealBody p .ack sequence action body ch = .ok payload ch' ∧
      bytes = Frame.encode ⟨.ack, sequence, action, payload⟩ := by
  rw [sendAck_eq] at h
  split at h
  · next payload ch'' hseal =>
    cases h
    exact ⟨payload, hseal, rfl⟩
  · cases h

/-- An acknowledgement that could not be sent leaves the channel as it was, and the encryption is to blame. -/
lemma sendAck_failed (h : sendAck p sequence action body ch = .error e ch') :
    ch' = ch ∧ ∃ reason, e = .crypto reason := by
  rw [sendAck_eq] at h
  split at h
  · cases h
  · next hseal =>
    cases h
    exact sealBody_failed hseal

/-- An acknowledgement that fails leaves the channel as it was. -/
lemma sendAck_error (h : sendAck p sequence action body ch = .error e ch') : ch' = ch := (sendAck_failed h).1

/-- An action is a frame with the next number and the body's payload. -/
theorem sendAction_ok (h : sendAction p action body ch = .ok bytes ch') :
    ∃ payload ch'', ch.pending = none ∧ ch.nextSequence.toNat + 1 < UInt32.size ∧
      sealBody p .action ch.nextSequence action body
        { ch with nextSequence := ch.nextSequence + 1 } = .ok payload ch'' ∧
      bytes = Frame.encode ⟨.action, ch.nextSequence, action, payload⟩ ∧
      ch' = { ch'' with pending := some (ch.nextSequence, action) } := by
  by_cases hready : ch.IsReady
  · rw [sendAction_of_isReady hready] at h
    split at h
    · next payload ch'' hseal =>
      cases h
      exact ⟨payload, ch'', hready.1, hready.2, hseal, rfl, rfl⟩
    · cases h
  · obtain ⟨e, -, -, hsend⟩ := sendAction_of_not_isReady hready action
    cases (hsend p body).symm.trans h

/-- What is left where an action could not be sent: either it was out of turn and nothing has changed, or its body
could not be sealed and its number is used up. -/
lemma sendAction_failed (h : sendAction p action body ch = .error e ch') :
    (ch' = ch ∧ (ch.pending = none → ¬ch.nextSequence.toNat + 1 < UInt32.size) ∧ e.kind = .protocolViolation ∧
      ∀ reason, e ≠ .crypto reason) ∨
      ch.nextSequence.toNat + 1 < UInt32.size ∧ ch' = { ch with nextSequence := ch.nextSequence + 1 } ∧
        ∃ reason, e = .crypto reason := by
  by_cases hready : ch.IsReady
  · rw [sendAction_of_isReady hready] at h
    split at h
    · cases h
    · next hseal =>
      cases h
      exact .inr ⟨hready.2, sealBody_failed hseal⟩
  · obtain ⟨e', hkind, hreason, hsend⟩ := sendAction_of_not_isReady hready action
    cases (hsend p body).symm.trans h
    exact .inl ⟨rfl, fun hpending hnext => hready ⟨hpending, hnext⟩, hkind, hreason⟩

/-- An action that could not be sent leaves the share in the encryption as it was. -/
lemma sendAction_error (h : sendAction p action body ch = .error e ch') : ch'.crypto = ch.crypto := by
  obtain ⟨rfl, -⟩ | ⟨-, rfl, -⟩ := sendAction_failed h <;> rfl

/-- The only sealing that an acknowledgement makes is that of its body, which is then sent. -/
theorem sendAck_without
    (hx : sendAck (p.without x) sequence action body ch ≠ sendAck p sequence action body ch)
    (hp : p.encrypt x.key x.nonce x.header x.plaintext = .ok x.ciphertext) :
    ∃ b c key, body = some b ∧ ch.crypto = some c ∧ c.key = some key ∧ action ≠ .versionNegotiation ∧
      x = Sealing.ofBody key c.role c.sent .ack sequence action b x.ciphertext ∧
      sendAck p sequence action body ch =
        .ok (Frame.encode ⟨.ack, sequence, action, .sealed x.ciphertext⟩)
          { ch with crypto := some c.afterSealing } := by
  have hseal : sealBody (p.without x) .ack sequence action body ch ≠
      sealBody p .ack sequence action body ch := fun heq => hx (by rw [sendAck_eq, sendAck_eq, heq])
  obtain ⟨b, c, key, hb, hc, hk, ha, heq, hok⟩ := sealBody_without hseal hp
  exact ⟨b, c, key, hb, hc, hk, ha, heq, sendAck_of_sealBody hok⟩

/-- The only sealing that an action makes is that of its body, which is then sent. -/
theorem sendAction_without (hx : sendAction (p.without x) action body ch ≠ sendAction p action body ch)
    (hp : p.encrypt x.key x.nonce x.header x.plaintext = .ok x.ciphertext) :
    ∃ b c key, body = some b ∧ ch.crypto = some c ∧ c.key = some key ∧ action ≠ .versionNegotiation ∧
      x = Sealing.ofBody key c.role c.sent .action ch.nextSequence action b x.ciphertext ∧
      sendAction p action body ch =
        .ok (Frame.encode ⟨.action, ch.nextSequence, action, .sealed x.ciphertext⟩)
          { ch with
            nextSequence := ch.nextSequence + 1
            pending := some (ch.nextSequence, action)
            crypto := some c.afterSealing } := by
  by_cases hready : ch.IsReady
  · have hseal : sealBody (p.without x) .action ch.nextSequence action body
          { ch with nextSequence := ch.nextSequence + 1 } ≠
        sealBody p .action ch.nextSequence action body { ch with nextSequence := ch.nextSequence + 1 } :=
      fun heq => hx (by rw [sendAction_of_isReady hready, sendAction_of_isReady hready, heq])
    obtain ⟨b, c, key, hb, hc, hk, ha, heq, hok⟩ := sealBody_without hseal hp
    exact ⟨b, c, key, hb, hc, hk, ha, heq, sendAction_of_sealBody hready.1 hready.2 hok⟩
  · obtain ⟨e, -, -, hsend⟩ := sendAction_of_not_isReady hready action
    exact absurd ((hsend _ _).trans (hsend _ _).symm) hx

/-- An action whose body is refused cannot be sent. -/
lemma sendAction_refused {b : Json} {c : CryptoContext} {key : SharedKey} (hc : ch.crypto = some c)
    (hk : c.key = some key) (ha : action ≠ .versionNegotiation) (hpending : ch.pending = none)
    (hnext : ch.nextSequence.toNat + 1 < UInt32.size) (ciphertext : Bytes) :
    sendAction (p.without (Sealing.ofBody key c.role c.sent .action ch.nextSequence action b ciphertext))
      action (some b) ch =
      .error (.crypto .encryption) { ch with nextSequence := ch.nextSequence + 1 } := by
  have hcounted : Channel.crypto { ch with nextSequence := ch.nextSequence + 1 } = some c := hc
  rw [sendAction_of_isReady ⟨hpending, hnext⟩, sealBody_refused hcounted hk ha ciphertext]

/-- An action with a body under a key makes the sealing of that body. -/
lemma makes_sendAction {b : Json} {c : CryptoContext} {key : SharedKey} (hc : ch.crypto = some c)
    (hk : c.key = some key) (ha : action ≠ .versionNegotiation)
    (h : sendAction p action (some b) ch = .ok bytes ch') :
    ∃ ciphertext, bytes = Frame.encode ⟨.action, ch.nextSequence, action, .sealed ciphertext⟩ ∧
      p.Makes (fun p => sendAction p action (some b) ch)
        (Sealing.ofBody key c.role c.sent .action ch.nextSequence action b ciphertext) := by
  obtain ⟨payload, ch'', hpending, hnext, hseal, rfl, rfl⟩ := sendAction_ok h
  obtain ⟨hb, -⟩ | ⟨b', -, -, -, hplain⟩ | ⟨b', c', key', ciphertext, hb, hc', hk', -, -, hp, rfl, -⟩ :=
    sealBody_ok hseal
  · cases hb
  · have hest : ch.established? = some c := established?_eq_some.2 ⟨hc, key, hk⟩
    cases hplain with
    | inl hnone =>
      have hnone : ch.established? = none := hnone
      rw [hest] at hnone
      cases hnone
    | inr hversion => exact absurd hversion ha
  · obtain rfl : b' = b := by simpa using hb.symm
    obtain rfl : c' = c := by simpa [hc] using hc'.symm
    obtain rfl : key' = key := by simpa [hk] using hk'.symm
    refine ⟨ciphertext, rfl, hp, ?_⟩
    simp only [h, sendAction_refused hc hk' ha hpending hnext]
    exact fun heq => by cases heq

/-! ### Receiving -/

/-- The frame acknowledges the action that waits for it, or is an action with a new number. -/
def IsInTurn (ch : Channel) (f : Frame) : Prop :=
  match f.kind with
  | .ack => ch.pending = some (f.sequence, f.action)
  | .action => ∀ n, ch.lastPeerSequence = some n → n < f.sequence

/-- What a frame is received as, with its body opened. -/
def inbound (f : Frame) (body : Option Json) : Inbound :=
  match f.kind with
  | .ack => .ack f.action body
  | .action => .action f.sequence f.action body

/-- The channel once it has received a frame. -/
def afterReceiving (f : Frame) (ch : Channel) : Channel :=
  match f.kind with
  | .ack => { ch with pending := none }
  | .action => { ch with lastPeerSequence := some f.sequence }

/-- A number does not increase exactly if one that is no less was received. -/
lemma any_lastPeerSequence_iff {sequence : UInt32} :
    ch.lastPeerSequence.any (sequence ≤ ·) = true ↔ ¬∀ n, ch.lastPeerSequence = some n → n < sequence := by
  cases ch.lastPeerSequence <;> simp

/-- What is no frame is refused, and the channel stays as it was. -/
lemma receive_of_decode_error {reason : DecodeError} (hdecode : Frame.decode bytes = .error reason) :
    receive p bytes ch = .error (.decode reason) ch := by
  rw [receive, hdecode]
  rfl

/-- A frame in its turn is received as soon as its body is opened. -/
theorem receive_of_isInTurn (hdecode : Frame.decode bytes = .ok f) (h : ch.IsInTurn f) :
    receive p bytes ch =
      match openBody p f ch with
      | .ok body ch' => .ok (inbound f body) (ch'.afterReceiving f)
      | .error e ch' => .error e ch' := by
  rw [receive, hdecode]
  rw [IsInTurn] at h
  cases hkind : f.kind with
  | ack =>
    rw [hkind] at h
    simp only [hkind, receiveAck, Steps.bind_apply, Steps.get_apply, h, and_self, if_true, inbound, afterReceiving]
    cases openBody p f ch <;> rfl
  | action =>
    rw [hkind] at h
    have hnew : ¬ch.lastPeerSequence.any (f.sequence ≤ ·) = true := by rwa [any_lastPeerSequence_iff, not_not]
    simp only [hkind, receiveAction, Steps.bind_apply, Steps.get_apply, if_neg hnew, inbound, afterReceiving]
    cases openBody p f ch <;> rfl

/-- A frame out of its turn is not even opened, whatever else the channel holds. -/
lemma receive_of_not_isInTurn (hdecode : Frame.decode bytes = .ok f) (h : ¬ch.IsInTurn f) :
    ∃ e : Failure, e.kind = .protocolViolation ∧ e ≠ .sealedBody ∧
      ∀ p ch', ch'.pending = ch.pending → ch'.lastPeerSequence = ch.lastPeerSequence →
        receive p bytes ch' = .error e ch' := by
  simp only [receive, hdecode]
  rw [IsInTurn] at h
  cases hkind : f.kind with
  | ack =>
    rw [hkind] at h
    cases hpending : ch.pending with
    | none =>
      refine ⟨.decode (.unexpectedAck f.sequence f.action), rfl, nofun, fun p ch' hsame _ => ?_⟩
      simp only [receiveAck, Steps.bind_apply, Steps.get_apply, hsame]
      rfl
    | some waiting =>
      have hother : ¬(waiting.1 = f.sequence ∧ waiting.2 = f.action) :=
        fun ⟨hsequence, haction⟩ => h (by rw [hpending, ← hsequence, ← haction])
      refine ⟨.otherAck f.header waiting.1 waiting.2, rfl, nofun, fun p ch' hsame _ => ?_⟩
      simp only [receiveAck, Steps.bind_apply, Steps.get_apply, hsame, if_neg hother]
      rfl
  | action =>
    rw [hkind] at h
    refine ⟨.notIncreasing f.sequence, rfl, nofun, fun p ch' _ hsame => ?_⟩
    have hold : ch'.lastPeerSequence.any (f.sequence ≤ ·) = true := by rwa [any_lastPeerSequence_iff, hsame]
    simp only [receiveAction, Steps.bind_apply, Steps.get_apply, if_pos hold]
    rfl

/-- The acknowledgement that is waited for is taken, and nothing is waited for any more. -/
lemma receive_ack_of_decode {f : Frame} (hdecode : Frame.decode bytes = .ok f) (hkind : f.kind = .ack)
    (hpending : ch.pending = some (f.sequence, f.action)) (h : openBody p f ch = .ok body ch') :
    receive p bytes ch = .ok (.ack f.action body) { ch' with pending := none } := by
  have hturn : ch.IsInTurn f := by simpa only [IsInTurn, hkind] using hpending
  rw [receive_of_isInTurn hdecode hturn, h]
  simp only [inbound, afterReceiving, hkind]

/-- An action with a greater number than the last one is taken, and its number noted. -/
lemma receive_action_of_decode {f : Frame} (hdecode : Frame.decode bytes = .ok f) (hkind : f.kind = .action)
    (hlast : ∀ n, ch.lastPeerSequence = some n → n < f.sequence) (h : openBody p f ch = .ok body ch') :
    receive p bytes ch =
      .ok (.action f.sequence f.action body) { ch' with lastPeerSequence := some f.sequence } := by
  have hturn : ch.IsInTurn f := by simpa only [IsInTurn, hkind] using hlast
  rw [receive_of_isInTurn hdecode hturn, h]
  simp only [inbound, afterReceiving, hkind]

/-- A written acknowledgement that is waited for is taken. -/
lemma receive_of_ack {f : Frame} (hread : f.payload.IsReadable) (hkind : f.kind = .ack)
    (hpending : ch.pending = some (f.sequence, f.action)) (h : openBody p f ch = .ok body ch') :
    receive p f.encode ch = .ok (.ack f.action body) { ch' with pending := none } :=
  receive_ack_of_decode (Frame.decode_encode hread) hkind hpending h

/-- A written action with a greater number than the last one is taken. -/
lemma receive_of_action {f : Frame} (hread : f.payload.IsReadable) (hkind : f.kind = .action)
    (hlast : ∀ n, ch.lastPeerSequence = some n → n < f.sequence) (h : openBody p f ch = .ok body ch') :
    receive p f.encode ch =
      .ok (.action f.sequence f.action body) { ch' with lastPeerSequence := some f.sequence } :=
  receive_action_of_decode (Frame.decode_encode hread) hkind hlast h

/-- What was received: an acknowledgement of the own action, or an action with a new number. -/
theorem receive_ok {inbound : Inbound} (h : receive p bytes ch = .ok inbound ch') :
    ∃ f body ch'', Frame.decode bytes = .ok f ∧ openBody p f ch = .ok body ch'' ∧
      ((f.kind = .ack ∧ ch.pending = some (f.sequence, f.action) ∧ inbound = .ack f.action body ∧
          ch' = { ch'' with pending := none }) ∨
        (f.kind = .action ∧ (∀ n, ch.lastPeerSequence = some n → n < f.sequence) ∧
          inbound = .action f.sequence f.action body ∧
          ch' = { ch'' with lastPeerSequence := some f.sequence })) := by
  cases hdecode : Frame.decode bytes with
  | error reason => cases (receive_of_decode_error hdecode).symm.trans h
  | ok f =>
    by_cases hturn : ch.IsInTurn f
    · rw [receive_of_isInTurn hdecode hturn] at h
      rw [IsInTurn] at hturn
      split at h
      · next body ch'' hopen =>
        cases h
        refine ⟨f, body, ch'', rfl, hopen, ?_⟩
        cases hkind : f.kind with
        | ack =>
          rw [hkind] at hturn
          exact .inl ⟨rfl, hturn, by rw [Channel.inbound, hkind], by rw [afterReceiving, hkind]⟩
        | action =>
          rw [hkind] at hturn
          exact .inr ⟨rfl, hturn, by rw [Channel.inbound, hkind], by rw [afterReceiving, hkind]⟩
      · cases h
    · obtain ⟨e, -, -, hreceive⟩ := receive_of_not_isInTurn hdecode hturn
      cases (hreceive p ch rfl rfl).symm.trans h

/-- What is left where a frame was not taken: either nothing has changed, or what was opened is no
body. -/
lemma receive_error (h : receive p bytes ch = .error e ch') :
    (ch' = ch ∧ e ≠ .sealedBody) ∨
    (∃ f ciphertext c key plaintext, Frame.decode bytes = .ok f ∧ f.payload = .sealed ciphertext ∧
      ch.crypto = some c ∧ c.key = some key ∧
      p.decrypt key (CryptoContext.nonce c.role.peer f.sequence c.received) (Utf8.encode f.header)
        ciphertext = .ok plaintext ∧
      Json.parseBytes plaintext = none ∧ e = .sealedBody ∧ ch' = { ch with crypto := some c.afterOpening }) := by
  cases hdecode : Frame.decode bytes with
  | error reason =>
    cases (receive_of_decode_error hdecode).symm.trans h
    exact .inl ⟨rfl, nofun⟩
  | ok f =>
    by_cases hturn : ch.IsInTurn f
    · rw [receive_of_isInTurn hdecode hturn] at h
      split at h
      · cases h
      · next hopen =>
        cases h
        obtain hsame | ⟨ciphertext, c, key, plaintext, hrest⟩ := openBody_error hopen
        · exact .inl hsame
        · exact .inr ⟨f, ciphertext, c, key, plaintext, rfl, hrest⟩
    · obtain ⟨e', -, hother, hreceive⟩ := receive_of_not_isInTurn hdecode hturn
      cases (hreceive p ch rfl rfl).symm.trans h
      exact .inl ⟨rfl, hother⟩

/-- A frame is not received because of the rules of the session, or because of the encryption. -/
lemma kind_of_receive_error (h : receive p bytes ch = .error e ch') :
    e.kind = .protocolViolation ∨ ∃ reason, e = .crypto reason := by
  cases hdecode : Frame.decode bytes with
  | error reason =>
    cases (receive_of_decode_error hdecode).symm.trans h
    exact .inl rfl
  | ok f =>
    by_cases hturn : ch.IsInTurn f
    · rw [receive_of_isInTurn hdecode hturn] at h
      split at h
      · cases h
      · next hopen =>
        cases h
        exact kind_of_openBody_error hopen
    · obtain ⟨e', hkind, -, hreceive⟩ := receive_of_not_isInTurn hdecode hturn
      cases (hreceive p ch rfl rfl).symm.trans h
      exact .inl hkind

/-! ### Reading bodies -/

section Reading

variable {α : Type} [Json.Record α] {record : α} {b : Json}

/-- A body that is read as a record is that record. -/
lemma readBody_of_ofJson? (h : Json.Record.ofJson? b = some record) : readBody action (some b) = .ok record := by
  rw [readBody, h]

/-- The record that was read is that of the body. -/
lemma readBody_ok (h : readBody action body = .ok record) :
    ∃ b, body = some b ∧ Json.Record.ofJson? b = some record := by
  cases body with
  | none => cases h
  | some b =>
    simp only [readBody] at h
    split at h
    · cases h
    · next hof =>
      cases h
      exact ⟨b, rfl, hof⟩

end Reading

end Channel

end DirectShare
