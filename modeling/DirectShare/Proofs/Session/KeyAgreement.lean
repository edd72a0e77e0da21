import Mathlib
import DirectShare.Proofs.Session.ReceiverScript
import DirectShare.Proofs.Session.SenderScript

/-!
# Keys are agreed on once

A session agrees on a key where it takes the offer of the other side or its answer, and a receiver on a key for
credentials where they are written. It leaves the stage for that with the same event, and stages are passed in one
direction only. So of all that happens to a session only one event can make it ask for a key, and only for one.

What is asked for is told by what the outcome depends on: a turn asks for nothing if other answers would not change
it, and once if it depends on the answer to one question.

An `Inquiry` is an outcome that depends on answers to questions, and `Inquiry.AskOnceInAll` says that a list
of them asks one question in all, if any. `Sender.rank_handle` and `Receiver.rank_handle` order the stages. A
turn in a stage other than that of the agreement asks nothing, and one in that stage leaves it for good, so
that `Sender.keyInquiries_askOnceInAll`, `Receiver.keyInquiries_askOnceInAll` and
`Receiver.credentialInquiries_askOnceInAll` follow by induction on the events.
-/

namespace DirectShare

/-! ### Questions -/

/-- An outcome that depends on the answers to questions of two parts, and the answers. -/
structure Inquiry (ι κ β α : Type) where
  outcome : (ι → κ → β) → α
  answers : ι → κ → β

namespace Inquiry

variable {ι κ β α : Type}

/-- Other answers would not change the outcome. -/
def AsksNothing (q : Inquiry ι κ β α) : Prop := ∀ g, q.outcome g = q.outcome q.answers

/-- Other answers would not change the outcome, if the answer to one question stays the same. -/
def AsksOnce (q : Inquiry ι κ β α) : Prop := ∃ i k, ∀ g, g i k = q.answers i k → q.outcome g = q.outcome q.answers

/-- One of the outcomes depends on answers at most, and only on one of them. -/
def AskOnceInAll (qs : List (Inquiry ι κ β α)) : Prop :=
  (∀ q ∈ qs, q.AsksOnce) ∧ qs.Pairwise fun q q' => q.AsksNothing ∨ q'.AsksNothing

variable {q : Inquiry ι κ β α} {qs : List (Inquiry ι κ β α)}

/-- Asking nothing is asking one question at most. -/
lemma AsksNothing.asksOnce [Nonempty ι] [Nonempty κ] (h : q.AsksNothing) : q.AsksOnce :=
  ⟨Classical.arbitrary ι, Classical.arbitrary κ, fun g _ => h g⟩

/-- No inquiries ask no question. -/
lemma AskOnceInAll.nil : AskOnceInAll ([] : List (Inquiry ι κ β α)) := ⟨by simp, .nil⟩

/-- One more inquiry adds no question if it asks none, or if the others do not. -/
lemma AskOnceInAll.cons (hq : q.AsksOnce) (hothers : q.AsksNothing ∨ ∀ q' ∈ qs, q'.AsksNothing)
    (h : AskOnceInAll qs) : AskOnceInAll (q :: qs) := by
  refine ⟨List.forall_mem_cons.2 ⟨hq, h.1⟩, List.pairwise_cons.2 ⟨fun q' hq' => ?_, h.2⟩⟩
  exact hothers.imp_right fun hall => hall q' hq'

/-! ### Machines that ask -/

section

variable {σ μ : Type}

/-- The turns of a machine that is given inputs one after the other. -/
def along (next : σ → μ → σ) (turn : σ → μ → Inquiry ι κ β α) : σ → List μ → List (Inquiry ι κ β α)
  | _, [] => []
  | s, m :: ms => turn s m :: along next turn (next s m) ms

variable {next : σ → μ → σ} {turn : σ → μ → Inquiry ι κ β α} {rank : σ → Nat} {n : Nat}

/-- After the stage in which questions are asked none are asked any more. -/
lemma asksNothing_along (hnext : ∀ s m, rank s ≤ rank (next s m))
    (hturn : ∀ s m, (turn s m).AsksNothing ∨ rank s = n ∧ n < rank (next s m)) {s : σ} (hs : n < rank s) (ms : List μ) :
    ∀ q ∈ along next turn s ms, q.AsksNothing := by
  induction ms generalizing s with
  | nil => simp [along]
  | cons m ms ih =>
    rw [along, List.forall_mem_cons]
    exact ⟨(hturn s m).resolve_right fun h => by omega, ih (lt_of_lt_of_le hs (hnext s m))⟩

/-- A machine asks once in all, if it asks in one place only, which each turn that asks leaves for good. -/
lemma askOnceInAll_along (rank : σ → Nat) (n : Nat) (hnext : ∀ s m, rank s ≤ rank (next s m))
    (honce : ∀ s m, (turn s m).AsksOnce)
    (hturn : ∀ s m, (turn s m).AsksNothing ∨ rank s = n ∧ n < rank (next s m)) (s : σ) (ms : List μ) :
    AskOnceInAll (along next turn s ms) := by
  induction ms generalizing s with
  | nil => exact .nil
  | cons m ms ih =>
    exact .cons (honce s m) ((hturn s m).imp_right fun h => asksNothing_along hnext hturn h.2 ms) (ih _)

end

end Inquiry

instance : Nonempty KeyPair := ⟨⟨[], []⟩⟩

instance : Nonempty CredentialKey := ⟨⟨[]⟩⟩

/-- The provider with other answers on agreement. -/
def Provider.agreeing (p : Provider) (agree : KeyPair → Bytes → Except CryptoError SharedKey) : Provider :=
  { p with agree }

/-- The surroundings with other answers on agreement. -/
def Surroundings.agreeing (env : Surroundings) (agree : KeyPair → Bytes → Except CryptoError SharedKey) :
    Surroundings :=
  { env with provider := env.provider.agreeing agree }

/-- The surroundings with other answers on agreement for credentials. -/
def Surroundings.sharing (env : Surroundings) (agree : CredentialKey → Bytes → Option CredentialCipher) :
    Surroundings :=
  { env with suite := { env.suite with agree } }

section

variable {env : Surroundings} {p : Provider} {agree : KeyPair → Bytes → Except CryptoError SharedKey} {α : Type}

/-- The primitives with other answers about keys. -/
@[simp] lemma Surroundings.provider_agreeing : (env.agreeing agree).provider = env.provider.agreeing agree := rfl

/-- Other answers about keys change no random bytes. -/
@[simp] lemma Surroundings.random_agreeing : (env.agreeing agree).random = env.random := rfl

/-- Other answers about keys change no time. -/
@[simp] lemma Surroundings.now_agreeing : (env.agreeing agree).now = env.now := rfl

/-- Taking a share in the encryption asks for no key. -/
@[simp] lemma CryptoContext.create_agreeing : create (p.agreeing agree) = create p := rfl

/-- Sending an acknowledgement asks for no key. -/
@[simp] lemma Channel.sendAck_agreeing : sendAck (p.agreeing agree) = sendAck p := rfl

/-- Receiving a frame asks for no key. -/
@[simp] lemma Channel.receive_agreeing : receive (p.agreeing agree) = receive p := rfl

/-- Agreeing on a key asks one question. -/
lemma exists_deriveText_agreeing (p : Provider) (peer : String) (c : CryptoContext) :
    ∃ pair bs, ∀ agree, agree pair bs = p.agree pair bs →
      CryptoContext.deriveText (p.agreeing agree) peer c = CryptoContext.deriveText p peer c := by
  cases hpeer : Base64.decode peer with
  | none => exact ⟨⟨[], []⟩, [], fun agree _ => by simp only [CryptoContext.deriveText, hpeer]⟩
  | some bs =>
    cases hpair : c.keyPair with
    | none =>
      exact ⟨⟨[], []⟩, [], fun agree _ => by simp only [CryptoContext.deriveText, CryptoContext.derive, hpeer, hpair]⟩
    | some pair =>
      refine ⟨pair, bs, fun agree hagree => ?_⟩
      simp only [CryptoContext.deriveText, CryptoContext.derive, hpeer, hpair, Provider.agreeing, hagree]

/-- An outcome that depends on agreement only through one attempt to agree on a key asks once. -/
lemma Inquiry.asksOnce_of_deriveText {q : Inquiry KeyPair Bytes (Except CryptoError SharedKey) α}
    (hanswers : q.answers = p.agree) (peer : String) (c : CryptoContext)
    (h : ∀ agree, CryptoContext.deriveText (p.agreeing agree) peer c = CryptoContext.deriveText p peer c →
      q.outcome agree = q.outcome q.answers) : q.AsksOnce := by
  obtain ⟨pair, bs, hsame⟩ := exists_deriveText_agreeing p peer c
  exact ⟨pair, bs, fun agree hagree => h agree (hsame agree (by rw [hagree, hanswers]))⟩

end

/-! ### Senders -/

namespace Sender

/-- The place of a stage in the order. -/
def Stage.rank : Stage → Nat
  | .idle => 0
  | .advertising => 1
  | .credentialsWritten => 2
  | .networkJoinObserved => 3
  | .handshakeConnected => 4
  | .requestSent => 5
  | .requestAcked => 6
  | .serving => 7
  | .completed | .failed _ => 8

open Act

variable {env : Surroundings} {s : Sender} {table : TaskTable} {event : Event} {t : Turn}

/-- No stage has a greater rank than the last ones. -/
lemma rank_le (stage : Stage) : stage.rank ≤ 8 := by
  cases stage <;> simp [Stage.rank]

/-- Stages are passed in one direction. -/
theorem rank_handle : s.stage.rank ≤ (handle env event s table).session.stage.rank := by
  cases hs : s.stage.isTerminal with
  | true => rw [handle_of_isTerminal hs]
  | false =>
    have hturn := handle_answers env table hs event
    revert hturn
    generalize handle env event s table = t
    intro hturn
    cases hturn with
    | began hstage => simp [hstage, Stage.rank]
    | crashed => exact le_rfl
    | described => exact le_rfl
    | awaits hstage => simp [hstage, Stage.rank]
    | joined hstage => simp [hstage, Stage.rank]
    | offered hstage => simp [hstage, Stage.rank]
    | announced hstage => simp [hstage, Stage.rank]
    | authorized hstage => simp [hstage, Stage.rank]
    | serves hstage => simp [hstage, Stage.rank]
    | completed => exact rank_le _
    | unannounced => exact rank_le _
    | reported => exact rank_le _
    | failed => exact rank_le _
    | gaveUp => exact rank_le _

/-- The answer to the version negotiation has come, which is when a key is agreed on. -/
def TakesAnswer (env : Surroundings) (s : Sender) (event : Event) (body : Option Json) (channel : Channel) : Prop :=
  s.stage = .handshakeConnected ∧ ∃ bytes, event = .frame bytes ∧
    Channel.receive env.provider bytes s.channel = .ok (.ack .versionNegotiation body) channel

/-- The answer takes a sender to a later stage. -/
lemma rank_handle_answer {body : Option Json} {channel : Channel} (h : TakesAnswer env s event body channel) :
    Stage.rank .handshakeConnected < (handle env event s table).session.stage.rank := by
  obtain ⟨hs, bytes, rfl, -⟩ := h
  have hturn := handle_answers env table (by rw [hs]; rfl) (.frame bytes)
  revert hturn
  generalize handle env (.frame bytes) s table = t
  intro hturn
  cases hturn <;> simp [Stage.rank, fail]

/-- A turn, as it depends on the agreement on a key. -/
def keyInquiry (s : Sender) (m : Moment) : Inquiry KeyPair Bytes (Except CryptoError SharedKey) Turn where
  outcome agree := handle (m.env.agreeing agree) m.event s m.table
  answers := m.env.provider.agree

/-- The turns of a whole session, as each depends on the agreement on a key. -/
def keyInquiries (s : Sender) (ms : List Moment) : List (Inquiry KeyPair Bytes (Except CryptoError SharedKey) Turn) :=
  Inquiry.along (fun s m => (handle m.env m.event s m.table).session) keyInquiry s ms

section

variable {agree : KeyPair → Bytes → Except CryptoError SharedKey}

/-- A sender whose step asks for no key asks for none. -/
lemma handle_agreeing
    (h : step (env.agreeing agree) event { session := s, table } = step env event { session := s, table }) :
    handle (env.agreeing agree) event s table = handle env event s table := by
  simp only [handle, h]
  rfl

/-- If the key of the receiver is agreed on in the same way, the settlement is the same. -/
lemma settle_agreeing {p : Provider} {settings : Settings} {ack : VersionOffer} {ch : Channel}
    (h : ∀ c value, ch.crypto = some c → ack.publicValue? = some value →
      CryptoContext.deriveText (p.agreeing agree) value c = CryptoContext.deriveText p value c) :
    settle (p.agreeing agree) settings ack ch = settle p settings ack ch := by
  rw [settle, settle]
  cases hvalue : (if settings.encryption then ack.publicValue? else none) with
  | none => rfl
  | some value =>
    have hpublic : ack.publicValue? = some value := by
      split_ifs at hvalue
      exact hvalue
    simp only [Channel.derive, Steps.bind_apply, Steps.get_apply]
    cases hc : ch.crypto with
    | none => rfl
    | some c => simp only [Channel.withContext, h c value hc hpublic]

/-- If the key of the receiver is agreed on in the same way, its answer is taken in the same way. -/
lemma onVersionAck_agreeing {body : Option Json} {t : Turn}
    (h : ∀ (ack : VersionOffer) c value, Channel.readBody .versionNegotiation body = .ok ack →
      t.session.channel.crypto = some c → ack.publicValue? = some value →
      CryptoContext.deriveText (env.provider.agreeing agree) value c = CryptoContext.deriveText env.provider value c) :
    onVersionAck (env.agreeing agree) body t = onVersionAck env body t := by
  cases hread : Channel.readBody (α := VersionOffer) .versionNegotiation body with
  | error e => rw [onVersionAck_unread t hread, onVersionAck_unread t hread]
  | ok ack =>
    by_cases hversion : ack.version ∈ t.session.settings.versions ∧ ack.version ∈ ack.range
    · have hsettle : settle (env.agreeing agree).provider t.session.settings ack t.session.channel =
          settle env.provider t.session.settings ack t.session.channel :=
        settle_agreeing fun c value hc hvalue => h ack c value hread hc hvalue
      rw [onVersionAck_eq t hread hversion.1 hversion.2, onVersionAck_eq t hread hversion.1 hversion.2]
      simp only [Steps.bind_apply, onChannel_apply, staged_channel, staged_withChannel, hsettle]
      rfl
    · rw [onVersionAck_outside t hread hversion, onVersionAck_outside t hread hversion]

/-- Taking a report asks for no key. -/
lemma onStatus_agreeing : onStatus (env.agreeing agree) = onStatus env := by
  unfold onStatus
  simp only [Surroundings.provider_agreeing, Channel.sendAck_agreeing, Surroundings.now_agreeing]

/-- Only the answer to a version negotiation makes a sender agree on a key. -/
lemma onInbound_agreeing {inbound : Inbound} {t : Turn}
    (h : t.session.stage = .handshakeConnected → ∀ body, inbound ≠ .ack .versionNegotiation body) :
    onInbound (env.agreeing agree) inbound t = onInbound env inbound t := by
  unfold onInbound
  rw [onStatus_agreeing]
  generalize onVersionAck (env.agreeing agree) = onAnswer
  generalize onVersionAck env = onAnswer'
  simp only [Steps.bind_apply, session_apply]
  cases inbound with
  | ack action body =>
    cases action with
    | versionNegotiation =>
      cases hs : t.session.stage with
      | handshakeConnected => exact absurd rfl (h hs body)
      | _ => rfl
    | _ => cases t.session.stage <;> rfl
  | action sequence action body => cases action <;> cases t.session.stage <;> rfl

/-- Beginning asks for no key. -/
lemma begin_agreeing : begin (env.agreeing agree) = begin env := rfl

/-- Reading the description of a receiver asks for no key of a session. -/
lemma onDeviceInfo_agreeing : onDeviceInfo (env.agreeing agree) = onDeviceInfo env := rfl

/-- Sending the offer asks for no key. -/
lemma onChannelOpened_agreeing : onChannelOpened (env.agreeing agree) = onChannelOpened env := rfl

/-- A step that does not take the answer to the offer asks for no key. -/
lemma step_agreeing {t : Turn} (h : ∀ body channel, ¬TakesAnswer env t.session event body channel) :
    step (env.agreeing agree) event t = step env event t := by
  cases event with
  | frame bytes =>
    simp only [step_frame, Surroundings.provider_agreeing, Channel.receive_agreeing, Steps.bind_apply, onChannel_apply,
      staged_channel, staged_withChannel]
    cases hreceive : Channel.receive env.provider bytes t.session.channel with
    | error e channel => rfl
    | ok inbound channel =>
      exact onInbound_agreeing fun hs body hinbound => h body channel ⟨hs, bytes, rfl, by rw [hreceive, hinbound]⟩
  | _ =>
    -- The handlers are the same but for that of frames, which does not matter here.
    unfold step
    rw [begin_agreeing, onDeviceInfo_agreeing, onChannelOpened_agreeing]
    generalize onInbound (env.agreeing agree) = onFrame
    generalize onInbound env = onFrame'
    rw [Steps.bind_apply, Steps.bind_apply, session_apply]
    cases hs : t.session.stage <;> simp only [hs]

/-- If the key of the receiver is agreed on in the same way, a sender takes its answer in the same way. -/
lemma handle_agreeing_of_answer {body : Option Json} {channel : Channel}
    (hanswer : TakesAnswer env s event body channel)
    (h : ∀ (ack : VersionOffer) c value, Channel.readBody .versionNegotiation body = .ok ack →
      channel.crypto = some c → ack.publicValue? = some value →
      CryptoContext.deriveText (env.provider.agreeing agree) value c = CryptoContext.deriveText env.provider value c) :
    handle (env.agreeing agree) event s table = handle env event s table := by
  obtain ⟨hs, bytes, rfl, hreceive⟩ := hanswer
  refine handle_agreeing ?_
  simp only [step_frame, Surroundings.provider_agreeing, Channel.receive_agreeing, Steps.bind_apply, onChannel_apply,
    staged_channel, staged_withChannel, hreceive]
  rw [onInbound_versionAck hs, onInbound_versionAck hs]
  exact onVersionAck_agreeing h

end

variable {m : Moment}

/-- A turn in which a sender does not take the answer to its offer asks for no key. -/
lemma keyInquiry_asksNothing (h : ∀ body channel, ¬TakesAnswer m.env s m.event body channel) :
    (s.keyInquiry m).AsksNothing :=
  fun _ => handle_agreeing (step_agreeing h)

/-- A turn asks for one key. -/
lemma keyInquiry_asksOnce (s : Sender) (m : Moment) : (s.keyInquiry m).AsksOnce := by
  by_cases hanswer : ∃ body channel, TakesAnswer m.env s m.event body channel
  · obtain ⟨body, channel, hanswer⟩ := hanswer
    by_cases hshare : ∃ (ack : VersionOffer) (c : CryptoContext) (value : String),
        Channel.readBody .versionNegotiation body = .ok ack ∧ channel.crypto = some c ∧ ack.publicValue? = some value
    · obtain ⟨ack, c, value, hread, hc, hvalue⟩ := hshare
      refine Inquiry.asksOnce_of_deriveText (p := m.env.provider) rfl value c fun agree hsame =>
        handle_agreeing_of_answer hanswer fun ack' c' value' hread' hc' hvalue' => ?_
      rw [hread] at hread'
      cases hread'
      rw [hc] at hc'
      cases hc'
      rw [hvalue] at hvalue'
      cases hvalue'
      exact hsame
    · refine Inquiry.AsksNothing.asksOnce fun agree =>
        handle_agreeing_of_answer hanswer fun ack c value hread hc hvalue => ?_
      exact absurd ⟨ack, c, value, hread, hc, hvalue⟩ hshare
  · exact (keyInquiry_asksNothing fun body channel h => hanswer ⟨body, channel, h⟩).asksOnce

/-- A session agrees on one key. -/
theorem keyInquiries_askOnceInAll (s : Sender) (ms : List Moment) : Inquiry.AskOnceInAll (s.keyInquiries ms) := by
  refine Inquiry.askOnceInAll_along (fun s => s.stage.rank) (Stage.rank .handshakeConnected)
    (fun s m => rank_handle) keyInquiry_asksOnce (fun s m => ?_) s ms
  by_cases hanswer : ∃ body channel, TakesAnswer m.env s m.event body channel
  · obtain ⟨body, channel, hanswer⟩ := hanswer
    exact .inr ⟨by rw [hanswer.1], rank_handle_answer hanswer⟩
  · exact .inl (keyInquiry_asksNothing fun body channel h => hanswer ⟨body, channel, h⟩)

end Sender

/-! ### Receivers -/

namespace Receiver

open Act

/-- The place of a stage in the order. -/
def Stage.rank : Stage → Nat
  | .idle => 0
  | .advertised => 1
  | .credentialsReceived _ => 2
  | .networkJoined => 3
  | .handshakeConnected => 4
  | .versionNegotiated => 5
  | .requestReceived => 6
  | .downloading => 7
  | .completed | .failed _ => 8

variable {env : Surroundings} {s : Receiver} {event : Event} {t : Turn}

/-- No stage has a greater rank than the last ones. -/
lemma rank_le (stage : Stage) : stage.rank ≤ 8 := by
  cases stage <;> simp [Stage.rank]

/-- Stages are passed in one direction. -/
theorem rank_handle : s.stage.rank ≤ (handle env event s).session.stage.rank := by
  cases hs : s.stage.isTerminal with
  | true => rw [handle_of_isTerminal hs]
  | false =>
    have hturn := handle_answers env hs event
    revert hturn
    generalize handle env event s = t
    intro hturn
    cases hturn with
    | published hstage => simp [hstage, Stage.rank]
    | joins hstage => simp [hstage, Stage.rank]
    | connects hstage => simp [hstage, Stage.rank]
    | connected hstage => simp [hstage, Stage.rank]
    | negotiated hstage => simp [hstage, Stage.rank]
    | downloads hstage => simp [hstage, Stage.rank]
    | asks hstage => simp [hstage, Stage.rank]
    | shows hstage => simp [hstage, Stage.rank]
    | accepts hstage => simp [hstage, Stage.rank]
    | refuses => exact le_rfl
    | downloaded => exact le_rfl
    | _ => exact rank_le _

/-- The offer of the sender has come, which is when a key is agreed on. -/
def TakesOffer (env : Surroundings) (s : Receiver) (event : Event) (sequence : UInt32) (body : Option Json)
    (channel : Channel) : Prop :=
  s.stage = .handshakeConnected ∧ ∃ bytes, event = .frame bytes ∧
    Channel.receive env.provider bytes s.channel = .ok (.action sequence .versionNegotiation body) channel

/-- The offer takes a receiver to a later stage. -/
lemma rank_handle_offer {sequence : UInt32} {body : Option Json} {channel : Channel}
    (h : TakesOffer env s event sequence body channel) :
    Stage.rank .handshakeConnected < (handle env event s).session.stage.rank := by
  obtain ⟨hs, bytes, rfl, -⟩ := h
  have hturn := handle_answers env (by rw [hs]; rfl) (.frame bytes)
  revert hturn
  generalize handle env (.frame bytes) s = t
  intro hturn
  cases hturn <;> simp [Stage.rank, fail]

/-- Credentials take a receiver to a later stage. -/
lemma rank_handle_credentials (hs : s.stage = .advertised) (bytes : Bytes) :
    Stage.rank .advertised < (handle env (.credentialsWritten bytes) s).session.stage.rank := by
  have hturn := handle_answers env (by rw [hs]; rfl) (.credentialsWritten bytes)
  revert hturn
  generalize handle env (.credentialsWritten bytes) s = t
  intro hturn
  cases hturn <;> simp [Stage.rank, fail]

/-- A turn, as it depends on the agreement on a key. -/
def keyInquiry (s : Receiver) (m : Moment) : Inquiry KeyPair Bytes (Except CryptoError SharedKey) Turn where
  outcome agree := handle (m.env.agreeing agree) m.event s
  answers := m.env.provider.agree

/-- A turn, as it depends on the agreement on a key for credentials. -/
def credentialInquiry (s : Receiver) (m : Moment) : Inquiry CredentialKey Bytes (Option CredentialCipher) Turn where
  outcome agree := handle (m.env.sharing agree) m.event s
  answers := m.env.suite.agree

/-- The turns of a whole session, as each depends on the agreement on a key. -/
def keyInquiries (s : Receiver) (ms : List Moment) : List (Inquiry KeyPair Bytes (Except CryptoError SharedKey) Turn) :=
  Inquiry.along (fun s m => (handle m.env m.event s).session) keyInquiry s ms

/-- The turns of a whole session, as each depends on the agreement on a key for credentials. -/
def credentialInquiries (s : Receiver) (ms : List Moment) :
    List (Inquiry CredentialKey Bytes (Option CredentialCipher) Turn) :=
  Inquiry.along (fun s m => (handle m.env m.event s).session) credentialInquiry s ms

/-! #### Keys -/

section

variable {agree : KeyPair → Bytes → Except CryptoError SharedKey}

/-- A receiver whose step asks for no key asks for none. -/
lemma handle_agreeing (h : step (env.agreeing agree) event { session := s } = step env event { session := s }) :
    handle (env.agreeing agree) event s = handle env event s := by
  simp only [handle, h]

/-- If the key of the sender is agreed on in the same way, the agreement is the same. -/
lemma agree_agreeing {peer : String} {t : Turn}
    (h : ∀ c, CryptoContext.create env.provider .receiver env.random = .ok c →
      CryptoContext.deriveText (env.provider.agreeing agree) peer c = CryptoContext.deriveText env.provider peer c) :
    Receiver.agree (env.agreeing agree) peer t = Receiver.agree env peer t := by
  simp only [Receiver.agree, Surroundings.provider_agreeing, Surroundings.random_agreeing,
    CryptoContext.create_agreeing]
  cases hcreate : CryptoContext.create env.provider .receiver env.random with
  | error e => rfl
  | ok c => simp only [h c hcreate]

/-- Acknowledging asks for no key. -/
lemma acknowledge_agreeing : acknowledge (env.agreeing agree) = acknowledge env := rfl

/-- If the key of the sender is agreed on in the same way, its offer is taken in the same way. -/
lemma onVersionNegotiation_agreeing {sequence : UInt32} {body : Option Json} {t : Turn}
    (h : ∀ (offer : VersionOffer) c peer, Channel.readBody .versionNegotiation body = .ok offer →
      CryptoContext.create env.provider .receiver env.random = .ok c → offer.publicValue? = some peer →
      CryptoContext.deriveText (env.provider.agreeing agree) peer c = CryptoContext.deriveText env.provider peer c) :
    onVersionNegotiation (env.agreeing agree) sequence body t = onVersionNegotiation env sequence body t := by
  cases hread : Channel.readBody (α := VersionOffer) .versionNegotiation body with
  | error e => simp only [onVersionNegotiation, Steps.bind_apply, reading_apply, hread]
  | ok offer =>
    simp only [onVersionNegotiation, Steps.bind_apply, reading_apply, session_apply, hread, acknowledge_agreeing]
    by_cases hversion : (answer t.session.settings offer).version < max t.session.settings.minVersion offer.range.least
    · rw [if_pos hversion, if_pos hversion]
    · rw [if_neg hversion, if_neg hversion]
      cases hvalue : (if t.session.settings.encryption then offer.publicValue? else none) with
      | none => rfl
      | some peer =>
        have hpublic : offer.publicValue? = some peer := by
          split_ifs at hvalue
          exact hvalue
        simp only [Steps.bind_apply, agree_agreeing fun c hcreate => h offer c peer hread hcreate hpublic]

/-- Reporting asks for no key. -/
lemma report_agreeing : report (env.agreeing agree) = report env := rfl

/-- Taking an announcement asks for no key. -/
lemma onSendRequest_agreeing : onSendRequest (env.agreeing agree) = onSendRequest env := by
  unfold onSendRequest
  rw [acknowledge_agreeing, report_agreeing]

/-- The decision of the user asks for no key. -/
lemma onDecision_agreeing : onDecision (env.agreeing agree) = onDecision env := rfl

/-- The end of a download asks for no key. -/
lemma onDownloadFinished_agreeing : onDownloadFinished (env.agreeing agree) = onDownloadFinished env := by
  unfold onDownloadFinished
  rw [report_agreeing]

/-- Only the offer of the sender makes a receiver agree on a key. -/
lemma onInbound_agreeing {inbound : Inbound} {t : Turn}
    (h : t.session.stage = .handshakeConnected → ∀ sequence body, inbound ≠ .action sequence .versionNegotiation body) :
    onInbound (env.agreeing agree) inbound t = onInbound env inbound t := by
  unfold onInbound
  rw [onSendRequest_agreeing]
  generalize onVersionNegotiation (env.agreeing agree) = onOffer
  generalize onVersionNegotiation env = onOffer'
  simp only [Steps.bind_apply, session_apply]
  cases inbound with
  | ack action body => cases action <;> cases t.session.stage <;> rfl
  | action sequence action body =>
    cases hs : t.session.stage with
    | handshakeConnected =>
      cases action with
      | versionNegotiation => exact absurd rfl (h hs sequence body)
      | _ => rfl
    | _ => cases action <;> rfl

/-- Publishing asks for no key of a session. -/
lemma publish_agreeing : publish (env.agreeing agree) = publish env := rfl

/-- Taking credentials asks for no key of a session. -/
lemma onCredentials_agreeing : onCredentials (env.agreeing agree) = onCredentials env := rfl

/-- A step that does not take an offer asks for no key. -/
lemma step_agreeing {t : Turn} (h : ∀ sequence body channel, ¬TakesOffer env t.session event sequence body channel) :
    step (env.agreeing agree) event t = step env event t := by
  cases event with
  | frame bytes =>
    simp only [step_frame, Surroundings.provider_agreeing, Channel.receive_agreeing, Steps.bind_apply, onChannel_apply,
      staged_channel, staged_withChannel]
    cases hreceive : Channel.receive env.provider bytes t.session.channel with
    | error e channel => rfl
    | ok inbound channel =>
      exact onInbound_agreeing fun hs sequence body hinbound =>
        h sequence body channel ⟨hs, bytes, rfl, by rw [hreceive, hinbound]⟩
  | _ =>
    -- The handlers are the same but for that of frames, which does not matter here.
    unfold step
    rw [publish_agreeing, onCredentials_agreeing, onDecision_agreeing, onDownloadFinished_agreeing]
    generalize onInbound (env.agreeing agree) = onFrame
    generalize onInbound env = onFrame'
    rw [Steps.bind_apply, Steps.bind_apply, session_apply]
    cases hs : t.session.stage <;> simp only [hs]

/-- If the key of the sender is agreed on in the same way, a receiver takes its offer in the same way. -/
lemma handle_agreeing_of_offer {sequence : UInt32} {body : Option Json} {channel : Channel}
    (hoffer : TakesOffer env s event sequence body channel)
    (h : ∀ (offer : VersionOffer) c peer, Channel.readBody .versionNegotiation body = .ok offer →
      CryptoContext.create env.provider .receiver env.random = .ok c → offer.publicValue? = some peer →
      CryptoContext.deriveText (env.provider.agreeing agree) peer c = CryptoContext.deriveText env.provider peer c) :
    handle (env.agreeing agree) event s = handle env event s := by
  obtain ⟨hs, bytes, rfl, hreceive⟩ := hoffer
  refine handle_agreeing ?_
  simp only [step_frame, Surroundings.provider_agreeing, Channel.receive_agreeing, Steps.bind_apply, onChannel_apply,
    staged_channel, staged_withChannel, hreceive]
  rw [onInbound_offer hs, onInbound_offer hs]
  exact onVersionNegotiation_agreeing h

end

variable {m : Moment}

/-- A turn in which a receiver does not take an offer asks for no key. -/
lemma keyInquiry_asksNothing (h : ∀ sequence body channel, ¬TakesOffer m.env s m.event sequence body channel) :
    (s.keyInquiry m).AsksNothing :=
  fun _ => handle_agreeing (step_agreeing h)

/-- A turn asks for one key. -/
lemma keyInquiry_asksOnce (s : Receiver) (m : Moment) : (s.keyInquiry m).AsksOnce := by
  by_cases hoffer : ∃ sequence body channel, TakesOffer m.env s m.event sequence body channel
  · obtain ⟨sequence, body, channel, hoffer⟩ := hoffer
    by_cases hshare : ∃ (offer : VersionOffer) (c : CryptoContext) (peer : String),
        Channel.readBody .versionNegotiation body = .ok offer ∧
          CryptoContext.create m.env.provider .receiver m.env.random = .ok c ∧ offer.publicValue? = some peer
    · obtain ⟨offer, c, peer, hread, hc, hpeer⟩ := hshare
      refine Inquiry.asksOnce_of_deriveText (p := m.env.provider) rfl peer c fun agree hsame =>
        handle_agreeing_of_offer hoffer fun offer' c' peer' hread' hc' hpeer' => ?_
      rw [hread] at hread'
      cases hread'
      rw [hc] at hc'
      cases hc'
      rw [hpeer] at hpeer'
      cases hpeer'
      exact hsame
    · refine Inquiry.AsksNothing.asksOnce fun agree =>
        handle_agreeing_of_offer hoffer fun offer c peer hread hc hpeer => ?_
      exact absurd ⟨offer, c, peer, hread, hc, hpeer⟩ hshare
  · exact (keyInquiry_asksNothing fun sequence body channel h => hoffer ⟨sequence, body, channel, h⟩).asksOnce

/-- A session agrees on one key. -/
theorem keyInquiries_askOnceInAll (s : Receiver) (ms : List Moment) : Inquiry.AskOnceInAll (s.keyInquiries ms) := by
  refine Inquiry.askOnceInAll_along (fun s => s.stage.rank) (Stage.rank .handshakeConnected)
    (fun s m => rank_handle) keyInquiry_asksOnce (fun s m => ?_) s ms
  by_cases hoffer : ∃ sequence body channel, TakesOffer m.env s m.event sequence body channel
  · obtain ⟨sequence, body, channel, hoffer⟩ := hoffer
    exact .inr ⟨by rw [hoffer.1], rank_handle_offer hoffer⟩
  · exact .inl (keyInquiry_asksNothing fun sequence body channel h => hoffer ⟨sequence, body, channel, h⟩)

/-! #### Keys for credentials -/

/-- If the key of the other side is agreed on in the same way, the cipher for credentials is the same. -/
lemma derive_sharing {suite : CredentialSuite} {agree : CredentialKey → Bytes → Option CredentialCipher}
    {key : CredentialKey} {peer : String}
    (h : ∀ bs, Base64.bytes? (Text.trim peer.toList) = some bs → agree key bs = suite.agree key bs) :
    key.derive { suite with agree } peer = key.derive suite peer := by
  rw [CredentialKey.derive, CredentialKey.derive]
  cases hbytes : Base64.bytes? (Text.trim peer.toList) with
  | none => rfl
  | some bs => simp only [h bs hbytes]

section

variable {agree : CredentialKey → Bytes → Option CredentialCipher}

/-- If the key of the sender is agreed on in the same way, its credentials are opened in the same way. -/
lemma openCredentials_sharing {written : NetworkInfo} {t : Turn}
    (h : ∀ peer key bs, written.key = some peer → t.session.credentialKey = some key →
      Base64.bytes? (Text.trim peer.toList) = some bs → agree key bs = env.suite.agree key bs) :
    openCredentials (env.sharing agree) written t = openCredentials env written t := by
  simp only [openCredentials, Steps.bind_apply, session_apply, update_apply]
  cases hpeer : written.key with
  | none => rfl
  | some peer =>
    cases hkey : t.session.credentialKey with
    | none => rfl
    | some key =>
      have hderive : key.derive (env.sharing agree).suite peer = key.derive env.suite peer :=
        derive_sharing fun bs hbs => h peer key bs hpeer hkey hbs
      simp only [Steps.bind_apply, credential_apply, hderive]

/-- If the key of the sender is agreed on in the same way, its credentials are taken in the same way. -/
lemma onCredentials_sharing {bytes : Bytes} {t : Turn}
    (h : ∀ written peer key bs, NetworkInfo.decode bytes = .ok written → written.key = some peer →
      t.session.credentialKey = some key → Base64.bytes? (Text.trim peer.toList) = some bs →
      agree key bs = env.suite.agree key bs) :
    onCredentials (env.sharing agree) bytes t = onCredentials env bytes t := by
  unfold onCredentials
  cases hdecode : NetworkInfo.decode bytes with
  | error e => rfl
  | ok written =>
    simp only [Steps.bind_apply, openCredentials_sharing fun peer key bs => h written peer key bs hdecode]

/-- A receiver whose step asks for no key for credentials asks for none. -/
lemma handle_sharing (h : step (env.sharing agree) event { session := s } = step env event { session := s }) :
    handle (env.sharing agree) event s = handle env event s := by
  simp only [handle, h]

/-- Only credentials make a receiver use its key for them. -/
lemma step_sharing {t : Turn} (h : t.session.stage = .advertised → ∀ bytes, event ≠ .credentialsWritten bytes) :
    step (env.sharing agree) event t = step env event t := by
  have hpublish : publish (env.sharing agree) = publish env := rfl
  have hdecision : onDecision (env.sharing agree) = onDecision env := rfl
  have hfinished : onDownloadFinished (env.sharing agree) = onDownloadFinished env := rfl
  have hinbound : onInbound (env.sharing agree) = onInbound env := rfl
  have hprovider : (env.sharing agree).provider = env.provider := rfl
  unfold step
  rw [hpublish, hdecision, hfinished, hinbound, hprovider]
  generalize onCredentials (env.sharing agree) = onWritten
  generalize onCredentials env = onWritten'
  rw [Steps.bind_apply, Steps.bind_apply, session_apply]
  cases event with
  | credentialsWritten bytes =>
    cases hs : t.session.stage with
    | advertised => exact absurd rfl (h hs bytes)
    | _ => simp only [hs]
  | _ => cases hs : t.session.stage <;> simp only [hs]

end

/-- A turn in which a receiver does not take credentials asks for no key for them. -/
lemma credentialInquiry_asksNothing (h : s.stage = .advertised → ∀ bytes, m.event ≠ .credentialsWritten bytes) :
    (s.credentialInquiry m).AsksNothing :=
  fun _ => handle_sharing (step_sharing h)

/-- A turn uses the key for credentials once. -/
lemma credentialInquiry_asksOnce (s : Receiver) (m : Moment) : (s.credentialInquiry m).AsksOnce := by
  obtain ⟨env, event⟩ := m
  by_cases hwritten : s.stage = .advertised ∧ ∃ bytes, event = .credentialsWritten bytes
  · obtain ⟨hs, bytes, rfl⟩ := hwritten
    have hhandle : ∀ agree, (∀ written peer key bs, NetworkInfo.decode bytes = .ok written → written.key = some peer →
        s.credentialKey = some key → Base64.bytes? (Text.trim peer.toList) = some bs →
        agree key bs = env.suite.agree key bs) →
        handle (env.sharing agree) (.credentialsWritten bytes) s = handle env (.credentialsWritten bytes) s := by
      intro agree h
      refine handle_sharing ?_
      rw [step_credentialsWritten hs, step_credentialsWritten hs]
      exact onCredentials_sharing h
    by_cases hasks : ∃ written peer key bs, NetworkInfo.decode bytes = .ok written ∧ written.key = some peer ∧
        s.credentialKey = some key ∧ Base64.bytes? (Text.trim peer.toList) = some bs
    · obtain ⟨written, peer, key, bs, hdecode, hpeer, hkey, hbs⟩ := hasks
      refine ⟨key, bs, fun agree hsame => hhandle agree fun written' peer' key' bs' hdecode' hpeer' hkey' hbs' => ?_⟩
      rw [hdecode] at hdecode'
      cases hdecode'
      rw [hpeer] at hpeer'
      cases hpeer'
      rw [hkey] at hkey'
      cases hkey'
      rw [hbs] at hbs'
      cases hbs'
      exact hsame
    · refine Inquiry.AsksNothing.asksOnce fun agree =>
        hhandle agree fun written peer key bs hdecode hpeer hkey hbs => ?_
      exact absurd ⟨written, peer, key, bs, hdecode, hpeer, hkey, hbs⟩ hasks
  · exact (credentialInquiry_asksNothing fun hs bytes hevent => hwritten ⟨hs, bytes, hevent⟩).asksOnce

/-- A receiver uses its key for credentials once. -/
theorem credentialInquiries_askOnceInAll (s : Receiver) (ms : List Moment) :
    Inquiry.AskOnceInAll (s.credentialInquiries ms) := by
  refine Inquiry.askOnceInAll_along (fun s => s.stage.rank) (Stage.rank .advertised)
    (fun s m => rank_handle) credentialInquiry_asksOnce (fun s m => ?_) s ms
  by_cases hwritten : s.stage = .advertised ∧ ∃ bytes, m.event = .credentialsWritten bytes
  · obtain ⟨hs, bytes, hevent⟩ := hwritten
    rw [hevent]
    exact .inr ⟨by rw [hs], rank_handle_credentials hs bytes⟩
  · exact .inl (credentialInquiry_asksNothing fun hs bytes hevent => hwritten ⟨hs, bytes, hevent⟩)

end Receiver

end DirectShare
