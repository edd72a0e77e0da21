import Mathlib
import DirectShare.Proofs.Session.Receiver
import DirectShare.Proofs.Session.Sender

/-!
# The lives of sessions

What holds of a session whatever has happened to it. Until its handshake a session has not used its
channel; afterwards the channel holds the share of the session's own side in the encryption.

`Sender.Coherent` and `Receiver.Coherent` collect what holds, and each is kept by every rule.
`Sender.Reaches.coherent` and `Receiver.Reaches.coherent` carry it along the events that have led to a
session.
-/

namespace DirectShare

/-! ### The side and the key of a channel -/

namespace Channel

/-- The share in the encryption, if there is one, is that of the given side. -/
def HasRole (role : Role) (ch : Channel) : Prop := ∀ c, ch.crypto = some c → c.role = role

/-- There is a share in the encryption with a key. -/
def IsKeyed (ch : Channel) : Prop := ∃ c key, ch.crypto = some c ∧ c.key = some key

variable {role : Role} {p : Provider} {ch ch' : Channel} {sequence : UInt32} {action : Action}
  {body : Option Json} {bytes : Bytes}

/-- A new channel has no share of another side. -/
lemma hasRole_start (side : Role) : HasRole role (.start side) := nofun

/-- A channel whose share is discarded has none of another side. -/
lemma hasRole_discardCrypto : HasRole role ch.discardCrypto := nofun

/-- A channel that is keyed is established. -/
lemma IsKeyed.established?_ne_none (h : IsKeyed ch) : ch.established? ≠ none := by
  obtain ⟨c, key, hc, hk⟩ := h
  rw [established?_eq_some.2 ⟨hc, key, hk⟩]
  exact nofun

/-- The side and the key of the share in the encryption. -/
def keying (ch : Channel) : Option (Role × Option SharedKey) := ch.crypto.map fun c => (c.role, c.key)

/-- Channels with the same share, up to its counts, are of the same side. -/
lemma HasRole.of_keying (h : HasRole role ch) (heq : ch'.keying = ch.keying) : HasRole role ch' := by
  intro c' hc'
  rw [keying, keying, hc'] at heq
  obtain ⟨c, hc, hsame⟩ := Option.map_eq_some_iff.1 heq.symm
  rw [← h c hc]
  exact (congrArg Prod.fst hsame).symm

/-- Channels with the same share, up to its counts, are keyed together. -/
lemma IsKeyed.of_keying (h : IsKeyed ch) (heq : ch'.keying = ch.keying) : IsKeyed ch' := by
  obtain ⟨c, key, hc, hk⟩ := h
  rw [keying, keying, hc] at heq
  obtain ⟨c', hc', hsame⟩ := Option.map_eq_some_iff.1 heq
  exact ⟨c', key, hc', (congrArg Prod.snd hsame).trans hk⟩

/-- Sealing a body changes at most the counts of the share. -/
lemma keying_sealBody {kind : Frame.Kind} {payload : Frame.Payload}
    (h : Channel.sealBody p kind sequence action body ch = .ok payload ch') : ch'.keying = ch.keying := by
  obtain ⟨-, -, rfl⟩ | ⟨-, -, -, rfl, -⟩ | ⟨-, c, -, -, -, hc, -, -, -, -, -, rfl⟩ := sealBody_ok h
  · rfl
  · rfl
  · rw [keying, keying, hc]
    rfl

/-- Sending an acknowledgement changes at most the counts of the share. -/
lemma keying_sendAck (h : Channel.sendAck p sequence action body ch = .ok bytes ch') :
    ch'.keying = ch.keying := by
  obtain ⟨payload, hseal, -⟩ := sendAck_ok h
  exact keying_sealBody hseal

/-- Sending an action changes at most the counts of the share. -/
lemma keying_sendAction (h : Channel.sendAction p action body ch = .ok bytes ch') : ch'.keying = ch.keying := by
  obtain ⟨payload, ch'', -, -, hseal, -, rfl⟩ := sendAction_ok h
  have hsealed := keying_sealBody hseal
  exact hsealed

/-- Receiving a frame changes at most the counts of the share. -/
lemma keying_receive {inbound : Inbound} (h : Channel.receive p bytes ch = .ok inbound ch') :
    ch'.keying = ch.keying := by
  obtain ⟨f, body, ch'', -, hopen, hcase⟩ := receive_ok h
  have hbody : ch''.keying = ch.keying := by
    obtain ⟨-, -, rfl⟩ | ⟨-, -, -, rfl, -⟩ | ⟨-, c, -, -, -, -, hc, -, -, -, -, rfl⟩ := openBody_ok hopen
    · rfl
    · rfl
    · rw [keying, keying, hc]
      rfl
  obtain ⟨-, -, -, rfl⟩ | ⟨-, -, -, rfl⟩ := hcase
  · exact hbody
  · exact hbody

/-- Sending an acknowledgement keeps the side of the share. -/
lemma HasRole.sendAck (h : HasRole role ch)
    (hsend : Channel.sendAck p sequence action body ch = .ok bytes ch') : HasRole role ch' :=
  h.of_keying (keying_sendAck hsend)

/-- Sending an action keeps the side of the share. -/
lemma HasRole.sendAction (h : HasRole role ch)
    (hsend : Channel.sendAction p action body ch = .ok bytes ch') : HasRole role ch' :=
  h.of_keying (keying_sendAction hsend)

/-- Receiving a frame keeps the side of the share. -/
lemma HasRole.receive {inbound : Inbound} (h : HasRole role ch)
    (hreceive : Channel.receive p bytes ch = .ok inbound ch') : HasRole role ch' :=
  h.of_keying (keying_receive hreceive)

/-- Sending an acknowledgement keeps a channel keyed. -/
lemma IsKeyed.sendAck (h : IsKeyed ch)
    (hsend : Channel.sendAck p sequence action body ch = .ok bytes ch') : IsKeyed ch' :=
  h.of_keying (keying_sendAck hsend)

/-- Sending an action keeps a channel keyed. -/
lemma IsKeyed.sendAction (h : IsKeyed ch)
    (hsend : Channel.sendAction p action body ch = .ok bytes ch') : IsKeyed ch' :=
  h.of_keying (keying_sendAction hsend)

/-- Receiving a frame keeps a channel keyed. -/
lemma IsKeyed.receive {inbound : Inbound} (h : IsKeyed ch)
    (hreceive : Channel.receive p bytes ch = .ok inbound ch') : IsKeyed ch' :=
  h.of_keying (keying_receive hreceive)

end Channel

/-- Agreeing on a key uses the key pair up, and changes nothing else. -/
lemma CryptoContext.deriveText_eq {p : Provider} {peer : String} {c c' : CryptoContext} {u : Unit}
    (h : deriveText p peer c = .ok u c') : ∃ key, c' = { c with keyPair := none, key := some key } := by
  rw [deriveText] at h
  cases hpeer : Base64.decode peer with
  | none =>
    rw [hpeer] at h
    cases h
  | some bs =>
    simp only [hpeer, derive] at h
    cases hpair : c.keyPair with
    | none =>
      rw [hpair] at h
      cases h
    | some pair =>
      simp only [hpair] at h
      split at h
      · cases h
      · cases h
        exact ⟨_, rfl⟩

/-- Agreeing on a key gives a share of the same side a key. -/
lemma CryptoContext.deriveText_ok {p : Provider} {peer : String} {c c' : CryptoContext} {u : Unit}
    (h : deriveText p peer c = .ok u c') : c'.role = c.role ∧ ∃ key, c'.key = some key := by
  obtain ⟨key, rfl⟩ := deriveText_eq h
  exact ⟨rfl, key, rfl⟩

/-- A new share has a key pair and nothing else. -/
lemma CryptoContext.create_eq {p : Provider} {role : Role} {random : Bytes} {c : CryptoContext}
    (h : create p role random = .ok c) : ∃ pair, c = { role, keyPair := some pair } := by
  rw [create] at h
  cases hpair : p.generate random with
  | error e =>
    rw [hpair] at h
    cases h
  | ok pair =>
    rw [hpair] at h
    cases h
    exact ⟨pair, rfl⟩

/-- A new share is of the side that it was made for. -/
lemma CryptoContext.role_create {p : Provider} {role : Role} {random : Bytes} {c : CryptoContext}
    (h : create p role random = .ok c) : c.role = role := by
  obtain ⟨pair, rfl⟩ := create_eq h
  rfl

/-! ### Senders -/

namespace Sender

/-- Nothing has been sent over the channel yet. -/
def Stage.IsEarly : Stage → Prop
  | .idle | .advertising | .credentialsWritten | .networkJoinObserved => True
  | _ => False

/-- What holds of every sender. -/
structure Coherent (s : Sender) : Prop where
  /-- The channel is unused until the handshake. -/
  channel : s.stage.IsEarly → s.channel = .start .sender
  /-- The channel is that of the sender. -/
  role : s.channel.HasRole .sender
  /-- There is a job from the first event on. -/
  job : s.stage.isTerminal = false → s.stage ≠ .idle → s.job.isSome = true
  /-- There is none before. -/
  idle : s.stage = .idle → s.job = none

/-- A sender that nothing has happened to is coherent. -/
lemma coherent_start (settings : Settings) (id : String) : Coherent { settings, id } where
  channel _ := rfl
  role := Channel.hasRole_start _
  job _ h := absurd rfl h
  idle _ := rfl

/-- How the encryption was settled: there is none, or a key was agreed on. -/
lemma settle_ok {p : Provider} {settings : Settings} {ack : VersionOffer} {ch ch' : Channel} {u : Unit}
    (h : settle p settings ack ch = .ok u ch') :
    (settings.encryption && ack.publicValue?.isSome) = false ∧ ch' = ch.discardCrypto ∨
      ∃ value c c', ch.crypto = some c ∧ CryptoContext.deriveText p value c = .ok u c' ∧
        ch' = { ch with crypto := some c' } := by
  rw [settle] at h
  cases hvalue : (if settings.encryption then ack.publicValue? else none) with
  | none =>
    rw [hvalue] at h
    cases h
    refine .inl ⟨?_, rfl⟩
    split_ifs at hvalue with hencryption
    · simp [hvalue]
    · simp [hencryption]
  | some value =>
    simp only [hvalue, Channel.derive, Steps.bind_apply, Steps.get_apply] at h
    cases hc : ch.crypto with
    | none =>
      rw [hc] at h
      cases h
    | some c =>
      simp only [hc, Channel.withContext] at h
      split at h
      · next c' hderive =>
        cases h
        exact .inr ⟨value, c, c', rfl, hderive, rfl⟩
      · cases h

/-- Settling on the encryption keeps the side of the share. -/
lemma role_settle {p : Provider} {settings : Settings} {ack : VersionOffer} {ch ch' : Channel} {u : Unit}
    (h : ch.HasRole .sender) (hsettle : settle p settings ack ch = .ok u ch') : ch'.HasRole .sender := by
  obtain ⟨-, rfl⟩ | ⟨value, c, c', hc, hderive, rfl⟩ := settle_ok hsettle
  · exact Channel.hasRole_discardCrypto
  · rintro _ ⟨⟩
    rw [(CryptoContext.deriveText_ok hderive).1]
    exact h c hc

/-- Settling on encryption gives the channel a key. -/
lemma isKeyed_settle {p : Provider} {settings : Settings} {ack : VersionOffer} {ch ch' : Channel} {u : Unit}
    (hmode : EncryptionMode.negotiate settings.encryption ack.publicValue?.isSome = .enabled)
    (hsettle : settle p settings ack ch = .ok u ch') : ch'.IsKeyed := by
  obtain ⟨hplain, -⟩ | ⟨value, c, c', hc, hderive, rfl⟩ := settle_ok hsettle
  · rw [EncryptionMode.negotiate, hplain] at hmode
    cases hmode
  · obtain ⟨-, key, hkey⟩ := CryptoContext.deriveText_ok hderive
    exact ⟨c', key, rfl, hkey⟩

/-- The share for an offer is of the sender's side. -/
lemma role_holding {env : Surroundings} {settings : Settings} {crypto : Option CryptoContext} {ch : Channel}
    (h : ch.HasRole .sender) (hshare : share env settings = .ok crypto) :
    (holding ch crypto).HasRole .sender := by
  rw [share] at hshare
  split_ifs at hshare
  · cases hcreate : CryptoContext.create env.provider .sender env.random with
    | error e =>
      rw [hcreate] at hshare
      cases hshare
    | ok c =>
      rw [hcreate] at hshare
      cases hshare
      rintro c' hc'
      cases hc'
      exact CryptoContext.role_create hcreate
  · cases hshare
    exact h

variable {env : Surroundings} {s : Sender} {table : TaskTable} {event : Event}

/-- A sender that has failed is coherent. -/
lemma coherent_fail (e : Failure) (t : Turn) : Coherent (fail env e t).session where
  channel h := h.elim
  role := Channel.hasRole_discardCrypto
  job h := by cases h
  idle h := by cases h

/-- An event keeps a sender coherent. -/
lemma Coherent.handle (h : Coherent s) : Coherent (handle env event s table).session := by
  cases hs : s.stage.isTerminal with
  | true =>
    rw [handle_of_isTerminal hs]
    exact h
  | false =>
    have hturn := handle_answers env table hs event
    revert hturn
    generalize Sender.handle env event s table = t
    intro hturn
    cases hturn with
    | began hidle hport hsize hregister =>
      exact ⟨fun _ => h.channel (by rw [hidle]; trivial), h.role, fun _ _ => rfl, by simp⟩
    | crashed => exact h
    | described hadvertising hpeer hdecode hjob hwritten =>
      exact ⟨h.channel, h.role, h.job, h.idle⟩
    | awaits hadvertising hpeer hjob =>
      exact ⟨fun _ => h.channel (by rw [hadvertising]; trivial), h.role, fun _ _ => by simp [hjob], by simp⟩
    | joined hwritten hjob =>
      exact ⟨fun _ => h.channel (by rw [hwritten]; trivial), h.role, fun _ _ => by simp [hjob], by simp⟩
    | offered hjoined hshare hsend =>
      exact ⟨False.elim, (role_holding h.role hshare).sendAction hsend,
        fun _ _ => h.job hs (by simp [hjoined]), by simp⟩
    | announced hconnected hreceive hread hhere hthere hsettle hjob hsend =>
      exact ⟨False.elim, (role_settle (h.role.receive hreceive) hsettle).sendAction hsend,
        fun _ _ => by simp [agreed, hjob], by simp⟩
    | unannounced => exact coherent_fail _ _
    | authorized hsent hreceive hjob hrequest =>
      exact ⟨False.elim, h.role.receive hreceive, fun _ _ => by simp [hjob], by simp⟩
    | serves hacked => exact ⟨False.elim, h.role, fun _ _ => h.job hs (by simp [hacked]), by simp⟩
    | completed =>
      exact ⟨False.elim, Channel.hasRole_discardCrypto, (fun hopen => by cases hopen), by simp⟩
    | reported => exact coherent_fail _ _
    | failed => exact coherent_fail _ _
    | gaveUp =>
      exact ⟨False.elim, Channel.hasRole_discardCrypto, (fun hopen => by cases hopen), fun hopen => by cases hopen⟩

/-- What a sender works on stays the same. -/
lemma Coherent.job_handle {j : Job} (h : Coherent s) (hj : s.job = some j) :
    (Sender.handle env event s table).session.job = some j := by
  cases hs : s.stage.isTerminal with
  | true =>
    rw [handle_of_isTerminal hs]
    exact hj
  | false =>
    have hturn := handle_answers env table hs event
    revert hturn
    generalize Sender.handle env event s table = t
    intro hturn
    cases hturn with
    | began hidle =>
      rw [h.idle hidle] at hj
      cases hj
    | _ => exact hj

/-- A sender that goes on has not said that it has finished. -/
lemma not_finished_of_answers {t : Turn} (hturn : Answers env s table event t)
    (hopen : t.session.stage.isTerminal = false) (result : Except Failure String) :
    .finished result ∉ t.intents := by
  cases hturn with
  | completed => cases hopen
  | unannounced => cases hopen
  | reported => cases hopen
  | failed => cases hopen
  | gaveUp => cases hopen
  | _ => simp

/-- Events lead from the start to a sender, in any surroundings and with any table of tasks each time. -/
inductive Reaches (settings : Settings) (id : String) : Sender → Prop
  /-- Nothing has happened. -/
  | start : Reaches settings id { settings, id }
  /-- One more event happens. -/
  | handle {s : Sender} (env : Surroundings) (event : Event) (table : TaskTable) :
      Reaches settings id s → Reaches settings id (handle env event s table).session

/-- Events lead to coherent senders only. -/
theorem Reaches.coherent {settings : Settings} {id : String} (h : Reaches settings id s) : Coherent s := by
  induction h with
  | start => exact coherent_start settings id
  | handle env event table _ ih => exact ih.handle

/-- No event changes the settings of a sender. -/
lemma settings_handle : (handle env event s table).session.settings = s.settings := by
  cases hs : s.stage.isTerminal with
  | true => rw [handle_of_isTerminal hs]
  | false =>
    have hturn := handle_answers env table hs event
    revert hturn
    generalize handle env event s table = t
    intro hturn
    cases hturn <;> rfl

/-- A sender that events lead to has the settings that it was given. -/
lemma Reaches.settings {settings : Settings} {id : String} (h : Reaches settings id s) :
    s.settings = settings := by
  induction h with
  | start => rfl
  | handle env event table _ ih => rw [settings_handle, ih]

end Sender

/-! ### Receivers -/

namespace Receiver

/-- Nothing has come over the channel yet. -/
def Stage.IsEarly : Stage → Prop
  | .idle | .advertised | .credentialsReceived _ | .networkJoined | .handshakeConnected => True
  | _ => False

/-- A task is announced, and what is to become of it is not settled between both sides. -/
def Stage.IsBusy : Stage → Prop
  | .requestReceived | .downloading => True
  | _ => False

/-- What holds of every receiver. -/
structure Coherent (r : Receiver) : Prop where
  /-- The channel is unused until the handshake. -/
  channel : r.stage.IsEarly → r.channel = .start .receiver
  /-- The channel is that of the receiver. -/
  role : r.channel.HasRole .receiver
  /-- A task is reported only after it was announced. -/
  reported : r.stage.isTerminal = false → r.reported.isSome = true → r.stage.IsBusy
  /-- The user is asked only about an announced task that is not reported. -/
  asked : r.stage.isTerminal = false → r.awaitingDecision = true →
    r.stage = .requestReceived ∧ r.reported = none

/-- A receiver that nothing has happened to is coherent. -/
lemma coherent_start (settings : Settings) : Coherent { settings } where
  channel _ := rfl
  role := Channel.hasRole_start _
  reported _ h := by cases h
  asked _ h := by cases h

variable {env : Surroundings} {r : Receiver} {event : Event}

/-- A receiver that has failed is coherent. -/
lemma coherent_fail (e : Failure) (t : Turn) : Coherent (fail e t).session where
  channel h := h.elim
  role := Channel.hasRole_discardCrypto
  reported h := by cases h
  asked h := by cases h

/-- How an offer was agreed to: there is no encryption, or a key was agreed on. -/
lemma agreement_ok {settings : Settings} {offer ack : VersionOffer} {ch ch' : Channel}
    (h : agreement env settings offer ch = .ok (ack, ch')) :
    peerValue? settings offer = none ∧ ch' = ch ∨
      ∃ value c c' u, CryptoContext.create env.provider .receiver env.random = .ok c ∧
        CryptoContext.deriveText env.provider value c = .ok u c' ∧ ch' = { ch with crypto := some c' } := by
  rw [agreement] at h
  split at h
  · next hvalue =>
    cases h
    exact .inl ⟨hvalue, rfl⟩
  · split at h
    · cases h
    · next c hcreate =>
      split at h
      · cases h
      · next hderive =>
        cases h
        exact .inr ⟨_, c, _, _, hcreate, hderive, rfl⟩

/-- Agreeing on the encryption keeps the side of the share. -/
lemma role_agreement {settings : Settings} {offer ack : VersionOffer} {ch ch' : Channel}
    (h : ch.HasRole .receiver) (hagree : agreement env settings offer ch = .ok (ack, ch')) :
    ch'.HasRole .receiver := by
  obtain ⟨-, rfl⟩ | ⟨value, c, c', u, hcreate, hderive, rfl⟩ := agreement_ok hagree
  · exact h
  · rintro _ ⟨⟩
    rw [(CryptoContext.deriveText_ok hderive).1]
    exact CryptoContext.role_create hcreate

/-- Agreeing on encryption gives the channel a key. -/
lemma isKeyed_agreement {settings : Settings} {offer ack : VersionOffer} {ch ch' : Channel}
    (hmode : EncryptionMode.negotiate settings.encryption offer.publicValue?.isSome = .enabled)
    (hagree : agreement env settings offer ch = .ok (ack, ch')) : ch'.IsKeyed := by
  obtain ⟨hvalue, -⟩ | ⟨value, c, c', u, -, hderive, rfl⟩ := agreement_ok hagree
  · rw [peerValue?] at hvalue
    split_ifs at hvalue with hencryption
    · simp [EncryptionMode.negotiate, hvalue] at hmode
    · simp [EncryptionMode.negotiate, hencryption] at hmode
  · obtain ⟨-, key, hkey⟩ := CryptoContext.deriveText_ok hderive
    exact ⟨c', key, rfl, hkey⟩

/-- A task that was not announced yet is not reported, and the user not asked. -/
lemma Coherent.of_not_busy (h : Coherent r) (hopen : r.stage.isTerminal = false)
    (hbusy : ¬r.stage.IsBusy) : r.reported = none ∧ r.awaitingDecision = false := by
  constructor
  · cases hreported : r.reported with
    | none => rfl
    | some outcome => exact absurd (h.reported hopen (by simp [hreported])) hbusy
  · cases hawaiting : r.awaitingDecision with
    | false => rfl
    | true =>
      obtain ⟨hstage, -⟩ := h.asked hopen hawaiting
      rw [hstage] at hbusy
      exact absurd trivial hbusy

/-- An event keeps a receiver coherent. -/
lemma Coherent.handle (h : Coherent r) : Coherent (handle env event r).session := by
  cases hr : r.stage.isTerminal with
  | true =>
    rw [handle_of_isTerminal hr]
    exact h
  | false =>
    have hturn := handle_answers env hr event
    revert hturn
    generalize Receiver.handle env event r = t
    intro hturn
    cases hturn with
    | published hidle =>
      obtain ⟨hnone, hsilent⟩ := h.of_not_busy hr (by simp [hidle, Stage.IsBusy])
      exact ⟨fun _ => h.channel (by rw [hidle]; trivial), h.role, by simp [hnone], by simp [hsilent]⟩
    | joins hadvertised hdecode hnetwork hport =>
      obtain ⟨hnone, hsilent⟩ := h.of_not_busy hr (by simp [hadvertised, Stage.IsBusy])
      exact ⟨fun _ => h.channel (by rw [hadvertised]; trivial), h.role, by simp [hnone], by simp [hsilent]⟩
    | connects hreceived =>
      obtain ⟨hnone, hsilent⟩ := h.of_not_busy hr (by simp [hreceived, Stage.IsBusy])
      exact ⟨fun _ => h.channel (by rw [hreceived]; trivial), h.role, by simp [hnone], by simp [hsilent]⟩
    | connected hjoined =>
      obtain ⟨hnone, hsilent⟩ := h.of_not_busy hr (by simp [hjoined, Stage.IsBusy])
      exact ⟨fun _ => h.channel (by rw [hjoined]; trivial), h.role, by simp [hnone], by simp [hsilent]⟩
    | negotiated hconnected hreceive hread hversion hagree hack =>
      obtain ⟨hnone, hsilent⟩ := h.of_not_busy hr (by simp [hconnected, Stage.IsBusy])
      exact ⟨False.elim, (role_agreement (h.role.receive hreceive) hagree).sendAck hack, by simp [hnone],
        by simp [hsilent]⟩
    | declined => exact coherent_fail _ _
    | downloads hnegotiated hreceive hread htask hack htext hauto =>
      obtain ⟨-, hsilent⟩ := h.of_not_busy hr (by simp [hnegotiated, Stage.IsBusy])
      exact ⟨False.elim, (h.role.receive hreceive).sendAck hack, fun _ _ => trivial, by simp [hsilent]⟩
    | asks hnegotiated hreceive hread htask hack htext hauto =>
      obtain ⟨hnone, -⟩ := h.of_not_busy hr (by simp [hnegotiated, Stage.IsBusy])
      exact ⟨False.elim, (h.role.receive hreceive).sendAck hack, fun _ _ => trivial,
        fun _ _ => ⟨rfl, hnone⟩⟩
    | shows hnegotiated hreceive hread htask hack htext hsend =>
      obtain ⟨-, hsilent⟩ := h.of_not_busy hr (by simp [hnegotiated, Stage.IsBusy])
      exact ⟨False.elim, ((h.role.receive hreceive).sendAck hack).sendAction hsend, fun _ _ => trivial,
        by simp [hsilent]⟩
    | unreported => exact coherent_fail _ _
    | accepts hrequested hawaiting htask =>
      exact ⟨False.elim, h.role, fun _ _ => trivial, by simp⟩
    | refuses hrequested hawaiting htask hsend =>
      have hlate : ¬r.stage.IsEarly := by
        rw [hrequested]
        exact id
      exact ⟨fun hearly => absurd hearly hlate, h.role.sendAction hsend,
        fun _ _ => by simp [hrequested, Stage.IsBusy], by simp⟩
    | downloaded hdownloading hreported hrequest hfault htask hsend =>
      have hsilent : r.awaitingDecision = false := by
        cases hawaiting : r.awaitingDecision with
        | false => rfl
        | true => simpa [hdownloading] using (h.asked hr hawaiting).1
      have hlate : ¬r.stage.IsEarly := by
        rw [hdownloading]
        exact id
      exact ⟨fun hearly => absurd hearly hlate, h.role.sendAction hsend,
        fun _ _ => by simp [hdownloading, Stage.IsBusy], by simp [hsilent]⟩
    | spoiled => exact coherent_fail _ _
    | completed => exact ⟨False.elim, Channel.hasRole_discardCrypto, (by simp), fun hopen => by cases hopen⟩
    | failed => exact coherent_fail _ _

/-- A receiver that is still early was early before. -/
lemma early_of_answers {t : Turn} (hturn : Answers env r event t) (hearly : t.session.stage.IsEarly) :
    r.stage.IsEarly := by
  cases hturn with
  | published hidle => rw [hidle]; trivial
  | joins hadvertised => rw [hadvertised]; trivial
  | connects hreceived => rw [hreceived]; trivial
  | connected hjoined => rw [hjoined]; trivial
  | refuses => exact hearly
  | downloaded => exact hearly
  | _ => exact hearly.elim

/-- A receiver says what was negotiated while it is still early. -/
lemma early_of_negotiated {t : Turn} (hturn : Answers env r event t) {version : UInt32}
    {mode : EncryptionMode} (h : .negotiated version mode ∈ t.intents) : r.stage.IsEarly := by
  cases hturn with
  | negotiated hconnected => rw [hconnected]; trivial
  | _ => simp [fail] at h

/-- Events lead from the start to a receiver, in any surroundings each time. -/
inductive Reaches (settings : Settings) : Receiver → Prop
  /-- Nothing has happened. -/
  | start : Reaches settings { settings }
  /-- One more event happens. -/
  | handle {r : Receiver} (env : Surroundings) (event : Event) :
      Reaches settings r → Reaches settings (handle env event r).session

/-- Events lead to coherent receivers only. -/
theorem Reaches.coherent {settings : Settings} (h : Reaches settings r) : Coherent r := by
  induction h with
  | start => exact coherent_start settings
  | handle env event _ ih => exact ih.handle

/-- No event changes the settings of a receiver. -/
lemma settings_handle : (handle env event r).session.settings = r.settings := by
  cases hr : r.stage.isTerminal with
  | true => rw [handle_of_isTerminal hr]
  | false =>
    have hturn := handle_answers env hr event
    revert hturn
    generalize handle env event r = t
    intro hturn
    cases hturn <;> rfl

/-- A receiver that events lead to has the settings that it was given. -/
lemma Reaches.settings {settings : Settings} (h : Reaches settings r) : r.settings = settings := by
  induction h with
  | start => rfl
  | handle env event _ ih => rw [settings_handle, ih]

end Receiver

end DirectShare
