import Mathlib
import DirectShare.Proofs.Session.KeyAgreement
import DirectShare.Proofs.Session.Lifecycle

/-!
# The life of key material

A session holds key material as long as it needs it, whatever happens to it and wherever its provider fails. A
sender has a share without a key while it waits for the answer to its offer; afterwards both sides have the key
until they end, if they agreed on encryption, and nothing if not. A receiver holds its key for credentials while it
waits for them.

`KeyMaterial` is what a channel holds, and `Sender.keyDue` and `Receiver.keyDue` what it is to hold by the
stage of its session. `Sender.holds_handle` and `Receiver.holds_handle` show rule by rule that every event
leaves what is due. With the lemmas that spell out what is due as `Sender.KeepsKeys` and `Receiver.KeepsKeys`,
and with the single use of each key, that gives `keys_live_as_needed`.
-/

namespace DirectShare

/-- The key material of a channel. -/
inductive KeyMaterial where
  /-- There is none. -/
  | nothing
  /-- A share in the encryption, without a key. -/
  | share
  /-- A share in the encryption with a key. -/
  | key
deriving DecidableEq, Repr

namespace Channel

/-- The key material that a channel holds. -/
def holds (ch : Channel) : KeyMaterial :=
  match ch.crypto with
  | none => .nothing
  | some c => if c.isEstablished then .key else .share

variable {p : Provider} {ch ch' : Channel} {sequence : UInt32} {action : Action} {body : Option Json} {bytes : Bytes}

/-- A channel holds nothing exactly if it has no share. -/
lemma holds_eq_nothing_iff : ch.holds = .nothing ↔ ch.crypto = none := by
  rw [holds]
  cases ch.crypto with
  | none => simp
  | some c => cases hc : c.isEstablished <;> simp [hc]

/-- A channel holds a share exactly if its share has no key. -/
lemma holds_eq_share_iff : ch.holds = .share ↔ ∃ c, ch.crypto = some c ∧ c.isEstablished = false := by
  rw [holds]
  cases ch.crypto with
  | none => simp
  | some c => cases hc : c.isEstablished <;> simp [hc]

/-- A channel holds a key exactly if its share has one. -/
lemma holds_eq_key_iff : ch.holds = .key ↔ ∃ c, ch.crypto = some c ∧ c.isEstablished = true := by
  rw [holds]
  cases ch.crypto with
  | none => simp
  | some c => cases hc : c.isEstablished <;> simp [hc]

/-- Channels with the same share, up to its counts, hold the same. -/
lemma holds_of_keying (h : ch'.keying = ch.keying) : ch'.holds = ch.holds := by
  have hkeying : ∀ ch : Channel, ch.holds = match ch.keying with
      | none => .nothing
      | some (_, key) => if key.isSome then .key else .share := by
    intro ch
    rw [holds, keying]
    cases ch.crypto <;> rfl
  rw [hkeying, hkeying, h]

/-- A channel that is keyed holds a key. -/
lemma IsKeyed.holds_eq (h : ch.IsKeyed) : ch.holds = .key := by
  obtain ⟨c, key, hc, hkey⟩ := h
  exact holds_eq_key_iff.2 ⟨c, hc, by rw [CryptoContext.isEstablished, hkey]; rfl⟩

/-- Sending an action changes nothing about what is held. -/
lemma holds_sendAction (h : sendAction p action body ch = .ok bytes ch') : ch'.holds = ch.holds :=
  holds_of_keying (keying_sendAction h)

/-- Sending an acknowledgement changes nothing about what is held. -/
lemma holds_sendAck (h : sendAck p sequence action body ch = .ok bytes ch') : ch'.holds = ch.holds :=
  holds_of_keying (keying_sendAck h)

/-- Receiving a frame changes nothing about what is held. -/
lemma holds_receive {inbound : Inbound} (h : receive p bytes ch = .ok inbound ch') : ch'.holds = ch.holds :=
  holds_of_keying (keying_receive h)

end Channel

/-- A new share has no key. -/
lemma CryptoContext.isEstablished_create {p : Provider} {role : Role} {random : Bytes} {c : CryptoContext}
    (h : create p role random = .ok c) : c.isEstablished = false := by
  rw [create] at h
  cases hpair : p.generate random with
  | error e =>
    rw [hpair] at h
    cases h
  | ok pair =>
    rw [hpair] at h
    cases h
    rfl

/-- The key material of a session that has settled its encryption. -/
def EncryptionMode.keyDue : EncryptionMode → KeyMaterial
  | .enabled => .key
  | .disabled => .nothing

/-! ### Senders -/

namespace Sender

/-- The key material that a sender is to hold. -/
def keyDue (s : Sender) : KeyMaterial :=
  match s.stage with
  | .handshakeConnected => if s.settings.encryption then .share else .nothing
  | .requestSent | .requestAcked | .serving => s.encryption.keyDue
  | _ => .nothing

variable {env : Surroundings} {s : Sender} {table : TaskTable} {event : Event}

/-- A channel that is given the share for an offer holds it, if encryption is wanted. -/
lemma holds_holding {settings : Settings} {crypto : Option CryptoContext} {ch : Channel} (hch : ch.holds = .nothing)
    (h : share env settings = .ok crypto) :
    (holding ch crypto).holds = if settings.encryption then .share else .nothing := by
  rw [share] at h
  split_ifs at h ⊢
  · cases hcreate : CryptoContext.create env.provider .sender env.random with
    | error e =>
      rw [hcreate] at h
      cases h
    | ok c =>
      rw [hcreate] at h
      cases h
      exact Channel.holds_eq_share_iff.2 ⟨c, rfl, CryptoContext.isEstablished_create hcreate⟩
  · cases h
    exact hch

/-- Once the encryption is settled, there is a key exactly if both sides want one. -/
lemma holds_settle {p : Provider} {settings : Settings} {ack : VersionOffer} {ch ch' : Channel} {u : Unit}
    (h : settle p settings ack ch = .ok u ch') :
    ch'.holds = (EncryptionMode.negotiate settings.encryption ack.publicValue?.isSome).keyDue := by
  cases hmode : EncryptionMode.negotiate settings.encryption ack.publicValue?.isSome with
  | enabled => exact (isKeyed_settle hmode h).holds_eq
  | disabled =>
    have hvalue : (if settings.encryption then ack.publicValue? else none) = none := by
      split_ifs with hwanted
      · cases hpublic : ack.publicValue? with
        | none => rfl
        | some value => simp [EncryptionMode.negotiate, hwanted, hpublic] at hmode
      · rfl
    rw [settle, hvalue] at h
    cases h
    rfl

/-- Every event leaves the key material that is due. -/
theorem holds_handle (h : s.channel.holds = s.keyDue) :
    (handle env event s table).session.channel.holds = (handle env event s table).session.keyDue := by
  cases hs : s.stage.isTerminal with
  | true =>
    rw [handle_of_isTerminal hs]
    exact h
  | false =>
    have hturn := handle_answers env table hs event
    revert hturn
    generalize handle env event s table = t
    intro hturn
    rw [keyDue] at h
    cases hturn with
    | began hstage =>
      rw [hstage] at h
      exact h
    | crashed => exact h
    | described => exact h
    | awaits hstage =>
      rw [hstage] at h
      exact h
    | joined hstage =>
      rw [hstage] at h
      exact h
    | offered hstage hshare hsend =>
      rw [hstage] at h
      rw [Channel.holds_sendAction hsend, holds_holding h hshare]
      rfl
    | announced hstage hreceive hread hhere hthere hsettle hjob hsend =>
      rw [Channel.holds_sendAction hsend, holds_settle hsettle]
      rfl
    | authorized hstage hreceive =>
      rw [hstage] at h
      rw [Channel.holds_receive hreceive, h]
      rfl
    | serves hstage =>
      rw [hstage] at h
      exact h
    | _ => rfl

/-- The key material of a sender in each stage. -/
structure KeepsKeys (s : Sender) : Prop where
  /-- Once it has ended, there is none. -/
  ended : s.stage.isTerminal = true → s.channel.crypto = none
  /-- While it waits for the answer to its offer, it has a share without a key if it wants encryption, and only then. -/
  waiting : (∃ c, s.channel.crypto = some c ∧ c.isEstablished = false) ↔
    s.stage = .handshakeConnected ∧ s.settings.encryption = true
  /-- From the announcement to the end it has a key if the session is encrypted, and only then. -/
  keyed : (∃ c, s.channel.crypto = some c ∧ c.isEstablished = true) ↔
    Stage.rank .requestSent ≤ s.stage.rank ∧ s.stage.isTerminal = false ∧ s.encryption = .enabled

/-- A sender that holds what is due keeps its keys as it has to. -/
lemma keepsKeys (h : s.channel.holds = s.keyDue) : KeepsKeys s := by
  constructor
  · intro hs
    rw [← Channel.holds_eq_nothing_iff, h, keyDue]
    cases hstage : s.stage <;> simp_all [Stage.isTerminal]
  · rw [← Channel.holds_eq_share_iff, h, keyDue]
    cases hstage : s.stage <;> cases hmode : s.encryption <;> simp [EncryptionMode.keyDue]
  · rw [← Channel.holds_eq_key_iff, h, keyDue]
    cases hstage : s.stage <;> cases hmode : s.encryption <;> cases hwanted : s.settings.encryption <;>
      simp [EncryptionMode.keyDue, Stage.rank, Stage.isTerminal]

/-- Every sender that events lead to keeps its keys as it has to. -/
lemma Reaches.keepsKeys {settings : Settings} {id : String} (h : Reaches settings id s) : KeepsKeys s := by
  refine Sender.keepsKeys ?_
  induction h with
  | start => rfl
  | handle env event table _ ih => exact holds_handle ih

end Sender

/-! ### Receivers -/

namespace Receiver

/-- The key material that the channel of a receiver is to hold. -/
def keyDue (r : Receiver) : KeyMaterial :=
  match r.stage with
  | .versionNegotiated | .requestReceived | .downloading => r.encryption.keyDue
  | _ => .nothing

variable {env : Surroundings} {r : Receiver} {event : Event}

/-- Once an offer is agreed to, there is a key exactly if both sides want one. -/
lemma holds_agreement {settings : Settings} {offer ack : VersionOffer} {ch ch' : Channel} (hch : ch.holds = .nothing)
    (h : agreement env settings offer ch = .ok (ack, ch')) :
    ch'.holds = (EncryptionMode.negotiate settings.encryption offer.publicValue?.isSome).keyDue := by
  cases hmode : EncryptionMode.negotiate settings.encryption offer.publicValue?.isSome with
  | enabled => exact (isKeyed_agreement hmode h).holds_eq
  | disabled =>
    have hvalue : peerValue? settings offer = none := by
      rw [peerValue?]
      split_ifs with hwanted
      · cases hpublic : offer.publicValue? with
        | none => rfl
        | some value => simp [EncryptionMode.negotiate, hwanted, hpublic] at hmode
      · rfl
    rw [agreement, hvalue] at h
    cases h
    exact hch

/-- Every event leaves the key material that is due. -/
theorem holds_handle (h : r.channel.holds = r.keyDue) :
    (handle env event r).session.channel.holds = (handle env event r).session.keyDue := by
  cases hr : r.stage.isTerminal with
  | true =>
    rw [handle_of_isTerminal hr]
    exact h
  | false =>
    have hturn := handle_answers env hr event
    revert hturn
    generalize handle env event r = t
    intro hturn
    rw [keyDue] at h
    cases hturn with
    | published hstage =>
      rw [hstage] at h
      exact h
    | joins hstage =>
      rw [hstage] at h
      exact h
    | connects hstage =>
      rw [hstage] at h
      exact h
    | connected hstage =>
      rw [hstage] at h
      exact h
    | negotiated hstage hreceive hread hversion hagree hack =>
      rw [hstage] at h
      rw [Channel.holds_sendAck hack, holds_agreement (by rw [Channel.holds_receive hreceive, h]) hagree]
      rfl
    | downloads hstage hreceive hread htask hack =>
      rw [hstage] at h
      rw [Channel.holds_sendAck hack, Channel.holds_receive hreceive, h]
      rfl
    | asks hstage hreceive hread htask hack =>
      rw [hstage] at h
      rw [Channel.holds_sendAck hack, Channel.holds_receive hreceive, h]
      rfl
    | shows hstage hreceive hread htask hack htext hreport =>
      rw [hstage] at h
      rw [Channel.holds_sendAction hreport, Channel.holds_sendAck hack, Channel.holds_receive hreceive, h]
      rfl
    | accepts hstage =>
      rw [hstage] at h
      exact h
    | refuses hstage hawaiting htask hreport =>
      rw [Channel.holds_sendAction hreport, h]
      rfl
    | downloaded hstage hreported hrequest hfault htask hreport =>
      rw [Channel.holds_sendAction hreport, h]
      rfl
    | _ => rfl

/-- Every event leaves a key for credentials exactly while it is published. -/
lemma credentialKey_handle (hcoherent : r.Coherent)
    (h : r.credentialKey.isSome = true ↔ r.stage = .advertised ∧ r.settings.encryption = true) :
    let r' := (handle env event r).session
    r'.credentialKey.isSome = true ↔ r'.stage = .advertised ∧ r'.settings.encryption = true := by
  cases hr : r.stage.isTerminal with
  | true =>
    rw [handle_of_isTerminal hr]
    exact h
  | false =>
    have hturn := handle_answers env hr event
    revert hturn
    generalize handle env event r = t
    intro hturn
    cases hturn with
    | published hstage =>
      have hnone : r.credentialKey = none := by simpa [hstage] using h
      cases hwanted : r.settings.encryption <;> simp [credentialKey?, hwanted, hnone]
    | refuses => exact h
    | downloaded => exact h
    | connects hstage => simpa [hstage] using h
    | connected hstage => simpa [hstage] using h
    | negotiated hstage => simpa [hstage] using h
    | downloads hstage => simpa [hstage] using h
    | asks hstage => simpa [hstage] using h
    | shows hstage => simpa [hstage] using h
    | accepts hstage => simpa [hstage] using h
    | completed hreceive hreported =>
      -- What was reported was announced, so the credentials have long come.
      have hbusy := hcoherent.reported hr (by rw [hreported]; rfl)
      have hstage : r.stage ≠ .advertised := fun hstage => by
        rw [hstage] at hbusy
        exact hbusy
      simpa [hstage] using h
    | _ => simp [fail]

/-- The key material of a receiver in each stage. -/
structure KeepsKeys (r : Receiver) : Prop where
  /-- Once it has ended, there is none. -/
  ended : r.stage.isTerminal = true → r.channel.crypto = none ∧ r.credentialKey = none
  /-- While it waits for credentials, it has a key for them if it wants encryption, and only then. -/
  published : r.credentialKey.isSome = true ↔ r.stage = .advertised ∧ r.settings.encryption = true
  /-- From the agreement on a version to the end it has a share if the session is encrypted, and only then. -/
  keyed : r.channel.crypto.isSome = true ↔
    Stage.rank .versionNegotiated ≤ r.stage.rank ∧ r.stage.isTerminal = false ∧ r.encryption = .enabled
  /-- The share always has a key. -/
  established : ∀ c, r.channel.crypto = some c → c.isEstablished = true

/-- A receiver that holds what is due keeps its keys as it has to. -/
lemma keepsKeys (h : r.channel.holds = r.keyDue)
    (hpublished : r.credentialKey.isSome = true ↔ r.stage = .advertised ∧ r.settings.encryption = true) :
    KeepsKeys r := by
  constructor
  · intro hr
    constructor
    · rw [← Channel.holds_eq_nothing_iff, h, keyDue]
      cases hstage : r.stage <;> simp_all [Stage.isTerminal]
    · cases hstage : r.stage <;> simp_all [Stage.isTerminal]
  · exact hpublished
  · have hsome : r.channel.crypto.isSome = true ↔ r.channel.holds ≠ .nothing := by
      rw [ne_eq, Channel.holds_eq_nothing_iff, Option.isSome_iff_ne_none]
    rw [hsome, h, keyDue]
    cases hstage : r.stage <;> cases hmode : r.encryption <;> simp [EncryptionMode.keyDue, Stage.rank, Stage.isTerminal]
  · intro c hc
    have hshare : r.channel.holds ≠ .share := by
      rw [h, keyDue]
      cases hstage : r.stage <;> cases hmode : r.encryption <;> simp [EncryptionMode.keyDue]
    rw [ne_eq, Channel.holds_eq_share_iff] at hshare
    simpa using fun hnot => hshare ⟨c, hc, hnot⟩

/-- Every receiver that events lead to keeps its keys as it has to. -/
lemma Reaches.keepsKeys {settings : Settings} (h : Reaches settings r) : KeepsKeys r := by
  -- Coherence is kept along with the key material.
  have hkept : r.channel.holds = r.keyDue ∧
      (r.credentialKey.isSome = true ↔ r.stage = .advertised ∧ r.settings.encryption = true) := by
    induction h with
    | start => exact ⟨rfl, by simp⟩
    | handle env event hreaches ih => exact ⟨holds_handle ih.1, credentialKey_handle hreaches.coherent ih.2⟩
  exact Receiver.keepsKeys hkept.1 hkept.2

end Receiver

/-- **The life of key material.** Take any settings, and let anything happen to a sender and to a receiver, in any
surroundings, whose primitives may fail each time. Each holds key material exactly as long as it needs it
(`KeepsKeys`): in no stage in which it has ended, a sender without a key only while it waits for the answer to its
offer, both with a key only from the agreement to the end and only in an encrypted session, and a receiver a key for
credentials only while it waits for them. Of all turns of a session one at most makes its provider agree on a key,
and that once; and of all turns of a receiver one at most uses its key for credentials, and that once. -/
theorem keys_live_as_needed (settings : Settings) (name : String) :
    (∀ ms : List Sender.Moment,
      (Sender.Course.run { sender := { settings, id := name } } ms).sender.KeepsKeys ∧
        Inquiry.AskOnceInAll (Sender.keyInquiries { settings, id := name } ms)) ∧
    ∀ ms : List Receiver.Moment,
      (Receiver.Course.run { receiver := { settings } } ms).receiver.KeepsKeys ∧
        Inquiry.AskOnceInAll (Receiver.keyInquiries { settings } ms) ∧
        Inquiry.AskOnceInAll (Receiver.credentialInquiries { settings } ms) := by
  refine ⟨fun ms => ⟨(Sender.spoken_run settings name ms).1.keepsKeys, Sender.keyInquiries_askOnceInAll _ ms⟩,
    fun ms => ⟨(Receiver.spoken_run settings ms).1.keepsKeys, Receiver.keyInquiries_askOnceInAll _ ms,
      Receiver.credentialInquiries_askOnceInAll _ ms⟩⟩

end DirectShare
