import Mathlib
import DirectShare.Proofs.Session.Lifecycle
import DirectShare.Proofs.Wire.Bodies

/-!
# Announcements

The only thing that a sender seals is the announcement of its task, and it announces nothing else. What a
receiver asks its user, downloads or shows is what was announced to it.

`Sender.isAnnouncement_of_makes` says that every sealing of a sender is an announcement of its job, and
`Channel.body_of_receive` that the body of a received action was readable or was opened. `Receiver.follows`
goes through the rules of a receiver: each intent about a task (`Receiver.Intent.Follows`) goes back to the
announcement that it has.
-/

namespace DirectShare

/-- A sealing determines the body, if bodies are readable. -/
lemma Sealing.ofBody_injective {key key' : SharedKey} {role role' : Role} {counter counter' : UInt32}
    {kind kind' : Frame.Kind} {sequence sequence' : UInt32} {action action' : Action} {body body' : Json}
    {ciphertext ciphertext' : Bytes} (hbody : body.IsReadable Json.maxLevels)
    (hbody' : body'.IsReadable Json.maxLevels)
    (h : ofBody key role counter kind sequence action body ciphertext =
      ofBody key' role' counter' kind' sequence' action' body' ciphertext') :
    sequence = sequence' ∧ body = body' ∧ ciphertext = ciphertext' := by
  simp only [ofBody, Sealing.mk.injEq] at h
  obtain ⟨-, hnonce, -, hplaintext, hciphertext⟩ := h
  refine ⟨(CryptoContext.nonce_injective hnonce).2.1, ?_, hciphertext⟩
  have hparse := congrArg Json.parseBytes hplaintext
  rw [Json.parseBytes_render hbody, Json.parseBytes_render hbody'] at hparse
  exact Option.some.inj hparse

/-- The body of an announcement is readable. -/
lemma isReadable_announcement (request : SendRequest) :
    (Json.Record.toJson request).IsReadable Json.maxLevels := request.isReadable_toJson.mono (by decide)

/-- The sealing is that of an announcement by a sender. -/
def Sealing.IsAnnouncement (x : Sealing) (request : SendRequest) : Prop :=
  ∃ key counter sequence,
    x = .ofBody key .sender counter .action sequence .sendRequest (Json.Record.toJson request) x.ciphertext

/-- The nonce of an announcement is one of the sender. -/
lemma Sealing.IsAnnouncement.nonce_eq {x : Sealing} {request : SendRequest} (h : x.IsAnnouncement request) :
    ∃ sequence counter, x.nonce = CryptoContext.nonce .sender sequence counter := by
  obtain ⟨key, counter, sequence, heq⟩ := h
  exact ⟨sequence, counter, congrArg Sealing.nonce heq⟩

/-- What an announcement has sealed is read as its request. -/
lemma Sealing.IsAnnouncement.parseBytes_eq {x : Sealing} {request : SendRequest}
    (h : x.IsAnnouncement request) : Json.parseBytes x.plaintext = some (Json.Record.toJson request) := by
  obtain ⟨key, counter, sequence, heq⟩ := h
  have hplaintext : x.plaintext = Utf8.encode (Json.Record.toJson request).render :=
    congrArg Sealing.plaintext heq
  rw [hplaintext, Json.parseBytes_render (isReadable_announcement request)]

/-- The surroundings whose provider refuses one sealing. -/
def Surroundings.without (env : Surroundings) (x : Sealing) : Surroundings :=
  { env with provider := env.provider.without x }

namespace Channel

variable {p : Provider} {ch ch' : Channel} {sequence : UInt32} {action : Action} {body : Option Json}
  {bytes : Bytes}

/-- A payload is readable if its body is, or if it is sealed. -/
lemma isReadable_payload {kind : Frame.Kind} {payload : Frame.Payload}
    (h : sealBody p kind sequence action body ch = .ok payload ch')
    (hbody : ∀ b, body = some b → b.IsReadable Json.maxLevels) : payload.IsReadable := by
  obtain ⟨-, rfl, -⟩ | ⟨b, hb, rfl, -⟩ | ⟨b, c, key, ciphertext, -, -, -, -, -, -, rfl, -⟩ := sealBody_ok h
  · trivial
  · exact hbody b hb
  · trivial

/-- What sends an action is an action. -/
lemma decode_sendAction (h : sendAction p action body ch = .ok bytes ch')
    (hbody : ∀ b, body = some b → b.IsReadable Json.maxLevels) :
    ∃ payload, Frame.decode bytes = .ok ⟨.action, ch.nextSequence, action, payload⟩ ∧
      (∀ b, payload = .json b → body = some b) := by
  obtain ⟨payload, ch'', -, -, hseal, rfl, -⟩ := sendAction_ok h
  refine ⟨payload, Frame.decode_encode (isReadable_payload hseal hbody), ?_⟩
  rintro b rfl
  obtain ⟨-, hpayload, -⟩ | ⟨b', hb, hpayload, -⟩ | ⟨b', c, key, ciphertext, -, -, -, -, -, -, hpayload, -⟩ :=
    sealBody_ok hseal
  · cases hpayload
  · cases hpayload
    exact hb
  · cases hpayload

end Channel

/-! ### What senders seal -/

namespace Sender

open Act

variable {env : Surroundings} {s : Sender} {table : TaskTable} {event : Event} {x : Sealing}

/-- Refusing a sealing that announces no job of the sender leaves its announcement as it is. -/
lemma sendRequest_without {request : SendRequest} {ch : Channel} (hrole : ch.HasRole .sender)
    (hx : ¬x.IsAnnouncement request)
    (hp : env.provider.encrypt x.key x.nonce x.header x.plaintext = .ok x.ciphertext) :
    Channel.sendAction (env.provider.without x) .sendRequest (some (Json.Record.toJson request)) ch =
      Channel.sendAction env.provider .sendRequest (some (Json.Record.toJson request)) ch := by
  by_contra hne
  obtain ⟨b, c, key, hb, hc, -, -, heq, -⟩ := Channel.sendAction_without hne hp
  cases hb
  rw [hrole c hc] at heq
  exact hx ⟨key, c.sent, ch.nextSequence, heq⟩

/-- Opening the channel seals nothing. -/
lemma onChannelOpened_without : onChannelOpened (env.without x) = onChannelOpened env := by
  have hsend : ∀ b, Channel.sendAction (env.provider.without x) .versionNegotiation (some b) =
      Channel.sendAction env.provider .versionNegotiation (some b) := by
    intro b
    funext ch
    by_cases hready : ch.IsReady
    · simp only [Channel.sendAction_of_isReady hready, Channel.sealBody_plain (.inr rfl)]
    · obtain ⟨e, -, -, hsend⟩ := Channel.sendAction_of_not_isReady hready .versionNegotiation
      rw [hsend, hsend]
  simp only [onChannelOpened, Surroundings.without, hsend]
  rfl

/-- Taking the answer to an offer seals nothing but the announcement. -/
lemma onVersionAck_without {body : Option Json} {t : Turn}
    (hrole : t.session.channel.HasRole .sender)
    (hx : ∀ j, t.session.job = some j → ¬x.IsAnnouncement j.request)
    (hp : env.provider.encrypt x.key x.nonce x.header x.plaintext = .ok x.ciphertext) :
    onVersionAck (env.without x) body t = onVersionAck env body t := by
  cases hread : Channel.readBody (α := VersionOffer) .versionNegotiation body with
  | error e => rw [onVersionAck_unread t hread, onVersionAck_unread t hread]
  | ok ack =>
    by_cases hversion : ack.version ∈ t.session.settings.versions ∧ ack.version ∈ ack.range
    · rw [onVersionAck_eq t hread hversion.1 hversion.2, onVersionAck_eq t hread hversion.1 hversion.2]
      have hsame : settle (env.without x).provider t.session.settings ack =
          settle env.provider t.session.settings ack := rfl
      simp only [Steps.bind_apply, onChannel_apply, staged_channel, staged_withChannel, hsame]
      cases hsettle : settle env.provider t.session.settings ack t.session.channel with
      | error e ch => rfl
      | ok u ch =>
        have hsettled : ch.HasRole .sender := role_settle hrole hsettle
        simp only [update_apply, emit_apply, currentJob_apply, agreed]
        cases hj : t.session.job with
        | none => rfl
        | some j => simp only [Surroundings.without, sendRequest_without hsettled (hx j hj) hp]
    · rw [onVersionAck_outside t hread hversion, onVersionAck_outside t hread hversion]

/-- Taking a frame seals nothing but the announcement. -/
lemma step_frame_without {bytes : Bytes} {t : Turn}
    (hrole : t.session.channel.HasRole .sender)
    (hx : ∀ j, t.session.job = some j → ¬x.IsAnnouncement j.request)
    (hp : env.provider.encrypt x.key x.nonce x.header x.plaintext = .ok x.ciphertext) :
    step (env.without x) (.frame bytes) t = step env (.frame bytes) t := by
  have hsame : Channel.receive (env.without x).provider bytes t.session.channel =
      Channel.receive env.provider bytes t.session.channel := rfl
  have hstatus : ∀ sequence body, onStatus (env.without x) sequence body = onStatus env sequence body :=
    fun _ _ => rfl
  simp only [step_frame, Steps.bind_apply, onChannel_apply, staged_channel, staged_withChannel, hsame]
  cases hreceive : Channel.receive env.provider bytes t.session.channel with
  | error e channel => rfl
  | ok inbound channel =>
    have hack : ∀ body, onVersionAck (env.without x) body { t with session := { t.session with channel } } =
        onVersionAck env body { t with session := { t.session with channel } } := fun _ =>
      onVersionAck_without (hrole.receive hreceive) hx hp
    generalize env.without x = env' at hstatus hack ⊢
    unfold onInbound
    generalize (refuse inbound : Act Unit) = refusal
    simp only [Steps.bind_apply, session_apply]
    cases inbound with
    | ack action body =>
      obtain ⟨⟨settings, id, stage, channel₀, job, peer, version, encryption⟩, table, intents, used, crashed⟩ := t
      cases stage with
      | handshakeConnected =>
        cases action with
        | versionNegotiation => exact hack body
        | _ => rfl
      | _ => cases action <;> rfl
    | action sequence action body =>
      cases action with
      | status =>
        cases t.session.stage with
        | requestAcked => exact congrFun (hstatus sequence body) _
        | serving => exact congrFun (hstatus sequence body) _
        | _ => rfl
      | versionNegotiation => cases t.session.stage <;> rfl
      | sendRequest => cases t.session.stage <;> rfl

/-- A sealing that is not that of the announcement makes no difference to a sender. -/
lemma step_without {t : Turn} (hrole : t.session.channel.HasRole .sender)
    (hx : ∀ j, t.session.job = some j → ¬x.IsAnnouncement j.request)
    (hp : env.provider.encrypt x.key x.nonce x.header x.plaintext = .ok x.ciphertext) :
    step (env.without x) event t = step env event t := by
  by_cases hframe : ∃ bytes, event = .frame bytes
  · obtain ⟨bytes, rfl⟩ := hframe
    exact step_frame_without hrole hx hp
  have hbegin : begin (env.without x) = begin env := rfl
  have hinfo : onDeviceInfo (env.without x) = onDeviceInfo env := rfl
  have hopened : onChannelOpened (env.without x) = onChannelOpened env := onChannelOpened_without
  generalize env.without x = env' at hbegin hinfo hopened ⊢
  unfold step
  generalize (refuse event : Act Unit) = refusal
  rw [Steps.bind_apply, Steps.bind_apply, session_apply]
  dsimp only
  cases event with
  | frame bytes => exact absurd ⟨bytes, rfl⟩ hframe
  | begin task network =>
    cases t.session.stage with
    | idle => exact congrFun (congrFun (congrFun hbegin task) network) _
    | _ => rfl
  | deviceInfoRead bytes =>
    cases t.session.stage with
    | advertising =>
      cases t.session.peer with
      | none => exact congrFun (congrFun hinfo bytes) _
      | some info =>
        simp only [Option.isNone_some, Bool.false_eq_true, if_false]
    | _ => rfl
  | channelOpened =>
    cases t.session.stage with
    | networkJoinObserved => exact congrFun hopened _
    | _ => rfl
  | _ => cases t.session.stage <;> rfl

/-- A sealing that a sender makes is that of the announcement of its task. -/
theorem isAnnouncement_of_makes (hrole : s.channel.HasRole .sender)
    (hx : env.provider.Makes (fun p => handle { env with provider := p } event s table) x) :
    ∃ j, s.job = some j ∧ x.IsAnnouncement j.request := by
  obtain ⟨hp, hne⟩ := hx
  have hne : handle (env.without x) event s table ≠ handle env event s table := hne
  by_contra hnone
  apply hne
  have hother : ∀ j, s.job = some j → ¬x.IsAnnouncement j.request := by
    intro j hj hannounces
    exact hnone ⟨j, hj, hannounces⟩
  cases hopen : s.stage.isTerminal with
  | true => rw [handle_of_isTerminal hopen, handle_of_isTerminal hopen]
  | false =>
    by_cases habort : event = .abort
    · subst habort
      simp [handle]
    · rw [handle_eq hopen habort, handle_eq hopen habort,
        step_without (t := { session := s, table }) hrole hother hp]
      rfl

/-- A sender with a key that announces its task seals the announcement. -/
lemma makes_announced (env : Surroundings) (table : TaskTable) {bytes request : Bytes} {body : Option Json}
    {ack : VersionOffer} {j : Job} {ch₁ ch₂ ch₃ : Channel} {c : CryptoContext} {key : SharedKey}
    (hs : s.stage = .handshakeConnected)
    (hreceive : Channel.receive env.provider bytes s.channel = .ok (.ack .versionNegotiation body) ch₁)
    (hread : Channel.readBody .versionNegotiation body = .ok ack) (hhere : ack.version ∈ s.settings.versions)
    (hthere : ack.version ∈ ack.range) (hsettle : settle env.provider s.settings ack ch₁ = .ok () ch₂)
    (hjob : s.job = some j)
    (hannounce : Channel.sendAction env.provider .sendRequest (some (Json.Record.toJson j.request)) ch₂ =
      .ok request ch₃)
    (hc : ch₂.crypto = some c) (hk : c.key = some key) :
    ∃ ciphertext, request = Frame.encode ⟨.action, ch₂.nextSequence, .sendRequest, .sealed ciphertext⟩ ∧
      env.provider.Makes (fun p => handle { env with provider := p } (.frame bytes) s table)
        (.ofBody key c.role c.sent .action ch₂.nextSequence .sendRequest (Json.Record.toJson j.request)
          ciphertext) := by
  obtain ⟨payload, ch, hpending, hnext, -⟩ := Channel.sendAction_ok hannounce
  obtain ⟨ciphertext, hrequest, hmade, -⟩ := Channel.makes_sendAction hc hk (by exact nofun) hannounce
  refine ⟨ciphertext, hrequest, hmade, ?_⟩
  have hturn : handle env (.frame bytes) s table = _ :=
    handle_of_answers (.announced hs hreceive hread hhere hthere hsettle hjob hannounce) nofun
  have hrefused := Channel.sendAction_refused (p := env.provider) (b := Json.Record.toJson j.request) hc hk
    (show Action.sendRequest ≠ .versionNegotiation from nofun) hpending hnext ciphertext
  generalize Sealing.ofBody key c.role c.sent .action ch₂.nextSequence .sendRequest (Json.Record.toJson j.request)
    ciphertext = x at hrefused ⊢
  -- the session fails where the announcement is refused
  have hother : ∃ e, (handle (env.without x) (.frame bytes) s table).session.stage = .failed e := by
    have hreceive' : Channel.receive (env.without x).provider bytes s.channel = _ := hreceive
    have hsettle' : settle (env.provider.without x) s.settings ack ch₁ = _ := hsettle
    rw [handle_frame (by rw [hs]; rfl) hreceive', onInbound_versionAck hs, onVersionAck_eq _ hread hhere hthere]
    simp only [Steps.bind_apply, onChannel_apply, staged_channel, staged_withChannel, Surroundings.without, hsettle',
      update_apply, emit_apply, currentJob_apply, agreed, hjob, hrefused]
    exact ⟨_, rfl⟩
  obtain ⟨e, hfailed⟩ := hother
  intro heq
  have heq : handle (env.without x) (.frame bytes) s table = handle env (.frame bytes) s table := heq
  rw [heq, hturn] at hfailed
  cases hfailed

end Sender

/-! ### Where a body comes from -/

/-- The body of a received action was readable, or was sealed by the other side. -/
theorem Channel.body_of_receive {p : Provider} {bytes : Bytes} {ch ch' : Channel} {sequence : UInt32}
    {action : Action} {b : Json} (h : receive p bytes ch = .ok (.action sequence action (some b)) ch') :
    (Frame.decode bytes = .ok ⟨.action, sequence, action, .json b⟩ ∧
      (ch.established? = none ∨ action = .versionNegotiation)) ∨
    ∃ c key header ciphertext plaintext, ch.crypto = some c ∧ c.key = some key ∧
      Frame.decode bytes = .ok ⟨.action, sequence, action, .sealed ciphertext⟩ ∧
      p.decrypt key (CryptoContext.nonce c.role.peer sequence c.received) header ciphertext = .ok plaintext ∧
      Json.parseBytes plaintext = some b := by
  obtain ⟨⟨kind, sequence', action', payload⟩, body, ch'', hdecode, hopen, ⟨-, -, hinbound, -⟩ |
    ⟨hkind, -, hinbound, -⟩⟩ := receive_ok h
  · cases hinbound
  simp only [Inbound.action.injEq] at hinbound
  obtain ⟨rfl, rfl, rfl⟩ := hinbound
  cases hkind
  obtain ⟨-, hbody, -⟩ | ⟨b', hpayload, hbody, -, hplain⟩ |
    ⟨ciphertext, c, key, plaintext, b', hpayload, hc, hk, hdecrypt, hparse, hbody, -⟩ := openBody_ok hopen
  · cases hbody
  · cases hbody
    cases hpayload
    exact .inl ⟨hdecode, hplain⟩
  · cases hbody
    cases hpayload
    exact .inr ⟨c, key, _, ciphertext, plaintext, hc, hk, hdecode, hdecrypt, hparse⟩

/-! ### What receivers make of announcements -/

namespace Receiver

/-- The intent goes back to one of the requests, if it is about one. -/
def Intent.Follows (requests : SendRequest → Prop) : Intent → Prop
  | .confirmRequest request => requests request
  | .download id => ∃ request, requests request ∧ request.task? = some id
  | .textReceived id text =>
    ∃ request, requests request ∧ request.task? = some id ∧ request.catShareText = some text
  | _ => True

/-- What goes back to some announcements goes back to more of them. -/
lemma Intent.Follows.mono {i : Intent} {requests requests' : SendRequest → Prop} (h : i.Follows requests)
    (hmore : ∀ request, requests request → requests' request) : i.Follows requests' := by
  cases i with
  | confirmRequest request => exact hmore request h
  | download id =>
    obtain ⟨request, hrequest, htask⟩ := h
    exact ⟨request, hmore request hrequest, htask⟩
  | textReceived id text =>
    obtain ⟨request, hrequest, htask, htext⟩ := h
    exact ⟨request, hmore request hrequest, htask, htext⟩
  | _ => trivial

/-- What a receiver asks its user, downloads or shows goes back to the request that it has, or has got. -/
theorem follows {env : Surroundings} {r : Receiver} {event : Event} {t : Turn} {requests : SendRequest → Prop}
    (hturn : Answers env r event t) (hknown : ∀ request, r.request = some request → requests request)
    (hreceive : ∀ bytes sequence body request channel, event = .frame bytes → r.stage = .versionNegotiated →
      Channel.receive env.provider bytes r.channel = .ok (.action sequence .sendRequest body) channel →
      Channel.readBody .sendRequest body = .ok request → requests request) :
    (∀ i ∈ t.intents, i.Follows requests) ∧ ∀ request, t.session.request = some request → requests request := by
  cases hturn with
  | downloads hnegotiated hgot hread htask =>
    have hrequest := hreceive _ _ _ _ _ rfl hnegotiated hgot hread
    refine ⟨by simpa [Intent.Follows] using ⟨_, hrequest, htask⟩, ?_⟩
    rintro request ⟨⟩
    exact hrequest
  | asks hnegotiated hgot hread htask =>
    have hrequest := hreceive _ _ _ _ _ rfl hnegotiated hgot hread
    refine ⟨by simpa [Intent.Follows] using hrequest, ?_⟩
    rintro request ⟨⟩
    exact hrequest
  | shows hnegotiated hgot hread htask hack htext =>
    have hrequest := hreceive _ _ _ _ _ rfl hnegotiated hgot hread
    refine ⟨by simpa [Intent.Follows] using ⟨_, hrequest, htask, htext⟩, ?_⟩
    rintro request ⟨⟩
    exact hrequest
  | unreported channel hnegotiated hgot hread htask hack htext =>
    have hrequest := hreceive _ _ _ _ _ rfl hnegotiated hgot hread
    refine ⟨by simpa [fail, Intent.Follows] using ⟨_, hrequest, htask, htext⟩, ?_⟩
    rintro request ⟨⟩
    exact hrequest
  | accepts hrequested hawaiting htask =>
    obtain ⟨request, hrequest, hid⟩ := Option.bind_eq_some_iff.1 htask
    exact ⟨by simpa [Intent.Follows] using ⟨request, hknown request hrequest, hid⟩, hknown⟩
  | _ => exact ⟨by simp [fail, Intent.Follows], hknown⟩

/-- Before its handshake has ended, a receiver takes no announcement. -/
lemma quiet_of_early {env : Surroundings} {r : Receiver} {event : Event} {t : Turn}
    (hturn : Answers env r event t) (hearly : r.stage.IsEarly) (hnone : r.request = none) :
    t.session.request = none ∧ ∀ i ∈ t.intents, i.Follows fun _ => False := by
  have hnobody : ∀ request, r.request = some request → False := by
    intro request hrequest
    rw [hnone] at hrequest
    cases hrequest
  obtain ⟨hsaid, hgot⟩ := follows hturn hnobody (by
    rintro bytes sequence body request channel - hnegotiated - -
    rw [hnegotiated] at hearly
    exact hearly)
  exact ⟨Option.eq_none_iff_forall_ne_some.2 fun request hrequest => hgot request hrequest, hsaid⟩

end Receiver

end DirectShare
