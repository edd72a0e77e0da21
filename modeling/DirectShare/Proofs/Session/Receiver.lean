import Mathlib
import DirectShare.Proofs.Session.Turn
import DirectShare.Session.Receiver

/-!
# What receivers do

Everything that a receiver can do with an event is one of the rules of `Receiver.Answers`. What holds
of every rule holds of every step of a receiver.

`Receiver.handle_answers` says that a receiver follows the rules, by cases on the stage and the event, with
one lemma for each handler. `Receiver.handle_of_answers` is the other direction for the rules that do not
fail, so that a rule computes a turn. `Receiver.handle_returns` shows that no event makes a receiver crash.
-/

namespace DirectShare.Receiver

open Act

/-! ### The steps of a turn -/

section Steps

/-- A receiver that enters a stage. -/
@[simp] lemma staged_atStage (stage : Stage) (r : Receiver) : Staged.atStage stage r = { r with stage } := rfl

/-- The channel of a receiver, as steps see it. -/
@[simp] lemma staged_channel (r : Receiver) : Staged.channel r = r.channel := rfl

/-- A receiver whose channel has done something. -/
@[simp] lemma staged_withChannel (channel : Channel) (r : Receiver) :
    Staged.withChannel channel r = { r with channel } := rfl

/-- A receiver without a task cannot go on with it. -/
@[simp] lemma currentTask_apply (t : Turn) : currentTask t = match t.session.task? with
    | none => .error .noTask t
    | some id => .ok id t := by
  simp only [currentTask, Steps.bind_apply, session_apply]
  cases t.session.task? <;> rfl

end Steps

/-! ### The rules -/

/-- The private key for credentials that a receiver publishes, if it wants encryption. -/
def credentialKey? (env : Surroundings) (settings : Settings) : Option CredentialKey :=
  if settings.encryption then some ⟨env.random⟩ else none

/-- The public value of the sender, if both sides want encryption. -/
def peerValue? (settings : Settings) (offer : VersionOffer) : Option String :=
  if settings.encryption then offer.publicValue? else none

/-- The answer to an offer, and the channel with the key that is agreed on, if both sides want one. -/
def agreement (env : Surroundings) (settings : Settings) (offer : VersionOffer) (ch : Channel) :
    Except CryptoError (VersionOffer × Channel) :=
  match peerValue? settings offer with
  | none => .ok (answer settings offer, ch)
  | some peer =>
    match CryptoContext.create env.provider .receiver env.random with
    | .error e => .error e
    | .ok c =>
      match CryptoContext.deriveText env.provider peer c with
      | .error e _ => .error e
      | .ok _ established =>
        .ok ({ answer settings offer with
                supportsEncryption := true, ephemeralPublicValue := c.publicText? },
              { ch with crypto := some established })

/-- A receiver and a sender have no version in common. -/
def NoCommonVersion (settings : Settings) (offer : VersionOffer) : Prop :=
  (answer settings offer).version < max settings.minVersion offer.range.least

/-- The body of a report. -/
def reportJson (id : String) (outcome : Outcome) (reason : String) : Json :=
  Json.Record.toJson (StatusReport.ofOutcome id outcome reason)

/-- How a receiver that has not ended answers an event. -/
inductive Answers (env : Surroundings) (s : Receiver) : Event → Turn → Prop
  /-- The device description is to be published. -/
  | published :
      s.stage = .idle →
      Answers env s .publish
        { session :=
            { s with
              stage := .advertised
              credentialKey := (credentialKey? env s.settings).or s.credentialKey }
          intents :=
            [.publishDeviceInfo (Json.Record.encode
              (deviceInfo s.settings ((credentialKey? env s.settings).map (·.publicText env.suite))))]
          usedRandom := s.settings.encryption }
  /-- The network is to be joined. -/
  | joins {bytes : Bytes} {written network : NetworkInfo} {port : UInt16} :
      s.stage = .advertised → NetworkInfo.decode bytes = .ok written →
      openCredentials env written { session := s } =
        .ok network { session := { s with credentialKey := none } } →
      network.servicePort? = some port →
      Answers env s (.credentialsWritten bytes)
        { session := { s with credentialKey := none, stage := .credentialsReceived port }
          intents := [.joinNetwork network] }
  /-- The channel is to be opened. -/
  | connects {host : String} {port : UInt16} :
      s.stage = .credentialsReceived port →
      Answers env s (.networkJoined host)
        { session := { s with stage := .networkJoined }, intents := [.openChannel host port] }
  /-- The channel is open. -/
  | connected :
      s.stage = .networkJoined →
      Answers env s .channelOpened { session := { s with stage := .handshakeConnected } }
  /-- The version is agreed on. -/
  | negotiated {bytes reply : Bytes} {sequence : UInt32} {body : Option Json} {offer ack : VersionOffer}
      {ch₁ ch₂ ch₃ : Channel} :
      s.stage = .handshakeConnected →
      Channel.receive env.provider bytes s.channel = .ok (.action sequence .versionNegotiation body) ch₁ →
      Channel.readBody .versionNegotiation body = .ok offer → ¬NoCommonVersion s.settings offer →
      agreement env s.settings offer ch₁ = .ok (ack, ch₂) →
      Channel.sendAck env.provider sequence .versionNegotiation (some (Json.Record.toJson ack)) ch₂ =
        .ok reply ch₃ →
      Answers env s (.frame bytes)
        { session :=
            { s with
              stage := .versionNegotiated
              channel := ch₃
              version := some ack.version
              encryption := EncryptionMode.negotiate s.settings.encryption offer.publicValue?.isSome }
          intents :=
            [.send reply, .negotiated ack.version
              (EncryptionMode.negotiate s.settings.encryption offer.publicValue?.isSome)]
          usedRandom := (peerValue? s.settings offer).isSome }
  /-- There is no version in common. -/
  | declined {bytes reply : Bytes} {sequence : UInt32} {body : Option Json} {offer : VersionOffer}
      {ch₁ ch₂ : Channel} :
      s.stage = .handshakeConnected →
      Channel.receive env.provider bytes s.channel = .ok (.action sequence .versionNegotiation body) ch₁ →
      Channel.readBody .versionNegotiation body = .ok offer → NoCommonVersion s.settings offer →
      Channel.sendAck env.provider sequence .versionNegotiation
        (some (Json.Record.toJson (answer s.settings offer))) ch₁ = .ok reply ch₂ →
      Answers env s (.frame bytes)
        (fail (.noCommonVersion offer.range s.settings.versions)
          { session := { s with channel := ch₂ }, intents := [.send reply] })
  /-- The files are to be downloaded at once. -/
  | downloads {bytes reply : Bytes} {sequence : UInt32} {body : Option Json} {request : SendRequest}
      {id : String} {ch₁ ch₂ : Channel} :
      s.stage = .versionNegotiated →
      Channel.receive env.provider bytes s.channel = .ok (.action sequence .sendRequest body) ch₁ →
      Channel.readBody .sendRequest body = .ok request → request.task? = some id →
      Channel.sendAck env.provider sequence .sendRequest none ch₁ = .ok reply ch₂ →
      request.catShareText = none → s.settings.autoAccept = true →
      Answers env s (.frame bytes)
        { session := { s with stage := .downloading, channel := ch₂, request := some request }
          intents := [.send reply, .download id] }
  /-- The user is asked about the files. -/
  | asks {bytes reply : Bytes} {sequence : UInt32} {body : Option Json} {request : SendRequest}
      {id : String} {ch₁ ch₂ : Channel} :
      s.stage = .versionNegotiated →
      Channel.receive env.provider bytes s.channel = .ok (.action sequence .sendRequest body) ch₁ →
      Channel.readBody .sendRequest body = .ok request → request.task? = some id →
      Channel.sendAck env.provider sequence .sendRequest none ch₁ = .ok reply ch₂ →
      request.catShareText = none → s.settings.autoAccept = false →
      Answers env s (.frame bytes)
        { session :=
            { s with
              stage := .requestReceived, channel := ch₂, request := some request, awaitingDecision := true }
          intents := [.send reply, .confirmRequest request] }
  /-- The text is shown, and its arrival reported. -/
  | shows {bytes reply report : Bytes} {sequence : UInt32} {body : Option Json} {request : SendRequest}
      {id text : String} {ch₁ ch₂ ch₃ : Channel} :
      s.stage = .versionNegotiated →
      Channel.receive env.provider bytes s.channel = .ok (.action sequence .sendRequest body) ch₁ →
      Channel.readBody .sendRequest body = .ok request → request.task? = some id →
      Channel.sendAck env.provider sequence .sendRequest none ch₁ = .ok reply ch₂ →
      request.catShareText = some text →
      Channel.sendAction env.provider .status (some (reportJson id .ok "")) ch₂ = .ok report ch₃ →
      Answers env s (.frame bytes)
        { session :=
            { s with
              stage := .requestReceived, channel := ch₃, request := some request, reported := some .ok }
          intents := [.send reply, .textReceived id text, .send report] }
  /-- The text is shown, but its arrival cannot be reported. -/
  | unreported {bytes reply : Bytes} {sequence : UInt32} {body : Option Json} {request : SendRequest}
      {id text : String} {e : Failure} {ch₁ ch₂ : Channel} (ch₃ : Channel) :
      s.stage = .versionNegotiated →
      Channel.receive env.provider bytes s.channel = .ok (.action sequence .sendRequest body) ch₁ →
      Channel.readBody .sendRequest body = .ok request → request.task? = some id →
      Channel.sendAck env.provider sequence .sendRequest none ch₁ = .ok reply ch₂ →
      request.catShareText = some text →
      Answers env s (.frame bytes)
        (fail e
          { session := { s with channel := ch₃, request := some request }
            intents := [.send reply, .textReceived id text] })
  /-- The user accepts. -/
  | accepts {id : String} :
      s.stage = .requestReceived → s.awaitingDecision = true → s.task? = some id →
      Answers env s (.decision true)
        { session := { s with stage := .downloading, awaitingDecision := false }
          intents := [.download id] }
  /-- The user refuses, which is reported. -/
  | refuses {id : String} {report : Bytes} {channel : Channel} :
      s.stage = .requestReceived → s.awaitingDecision = true → s.task? = some id →
      Channel.sendAction env.provider .status (some (reportJson id .refused "user refuse")) s.channel =
        .ok report channel →
      Answers env s (.decision false)
        { session := { s with awaitingDecision := false, channel, reported := some .refused }
          intents := [.send report] }
  /-- The files have come, which is reported. -/
  | downloaded {request : SendRequest} {id : String} {report : Bytes} {channel : Channel}
      {result : Except String (List String)} :
      s.stage = .downloading → s.reported = none → s.request = some request →
      fault? request result = none → s.task? = some id →
      Channel.sendAction env.provider .status (some (reportJson id .ok "")) s.channel = .ok report channel →
      Answers env s (.downloadFinished result)
        { session := { s with channel, reported := some .ok }, intents := [.send report] }
  /-- The files have not come as announced, which is reported. -/
  | spoiled {request : SendRequest} {id reason : String} {report : Bytes} {channel : Channel}
      {result : Except String (List String)} :
      s.stage = .downloading → s.reported = none → s.request = some request →
      fault? request result = some reason → s.task? = some id →
      Channel.sendAction env.provider .status (some (reportJson id .error reason)) s.channel = .ok report channel →
      Answers env s (.downloadFinished result)
        (fail (.described .streamCorrupted reason)
          { session := { s with channel, reported := some .error }, intents := [.send report] })
  /-- The sender knows that all of the task has come. -/
  | completed {bytes : Bytes} {body : Option Json} {id : String} {channel : Channel} :
      Channel.receive env.provider bytes s.channel = .ok (.ack .status body) channel →
      s.reported = some .ok → s.task? = some id →
      Answers env s (.frame bytes)
        { session := { s with reported := none, channel := channel.discardCrypto, stage := .completed }
          intents := [.finished (.ok id)] }
  /-- The session fails before it has said anything. -/
  | failed {event : Event} {e : Failure} (channel : Channel) (awaiting : Bool) (reported : Option Outcome)
      (used : Bool) :
      Answers env s event
        (fail e
          { session := { s with channel, awaitingDecision := awaiting, reported }, usedRandom := used })

/-! ### Receivers follow the rules -/

section Rules

variable {env : Surroundings} {s : Receiver}

/-- The turn that ends with a result. -/
def conclude : EStateM.Result Failure Turn Unit → Turn
  | .ok _ t => t
  | .error e t => fail e t

/-- A receiver that has ended ignores every event. -/
lemma handle_of_isTerminal (hs : s.stage.isTerminal = true) (event : Event) :
    handle env event s = { session := s } := by
  unfold handle
  rw [if_pos hs]

/-- A receiver that has not ended does what the step says. -/
lemma handle_eq (hs : s.stage.isTerminal = false) {event : Event} (he : event ≠ .abort) :
    handle env event s = conclude (step env event { session := s }) := by
  have hresult : ∀ r : EStateM.Result Failure Turn Unit,
      (match r with
        | .ok _ t => t
        | .error e t => fail e t) = conclude r := by
    intro r
    cases r <;> rfl
  unfold handle
  rw [if_neg (by simp [hs])]
  cases event with
  | abort => exact absurd rfl he
  | _ => exact hresult _

/-- A receiver may fail in any stage, with the channel as it is then. -/
lemma answers_failed {event : Event} (e : Failure) (channel : Channel) :
    Answers env s event (conclude (.error e { session := { s with channel } })) :=
  Answers.failed channel s.awaitingDecision s.reported false

/-- Publishing follows the rules. -/
lemma answers_publish (hs : s.stage = .idle) :
    Answers env s .publish (conclude (publish env { session := s })) := by
  have hturn : Answers env s .publish _ := .published hs
  simp only [credentialKey?] at hturn
  simp only [publish, Steps.bind_apply, session_apply]
  cases hencryption : s.settings.encryption with
  | false =>
    simp only [hencryption] at hturn
    exact hturn
  | true =>
    simp only [hencryption] at hturn
    exact hturn

/-- Credentials are opened with the published key, which is then forgotten. -/
lemma openCredentials_result (env : Surroundings) (written : NetworkInfo) (t : Turn) :
    (∃ network, openCredentials env written t =
      .ok network { t with session := { t.session with credentialKey := none } }) ∨
    (∃ e, openCredentials env written t =
      .error e { t with session := { t.session with credentialKey := none } }) := by
  simp only [openCredentials, Steps.bind_apply, session_apply, update_apply]
  cases written.key with
  | none => exact .inl ⟨written, rfl⟩
  | some peerKey =>
    cases t.session.credentialKey with
    | none => exact .inr ⟨_, rfl⟩
    | some key =>
      simp only [Steps.bind_apply, credential_apply]
      cases key.derive env.suite peerKey with
      | error e => exact .inr ⟨_, rfl⟩
      | ok cipher =>
        simp only
        cases cipher.openNetwork written with
        | error e => exact .inr ⟨_, rfl⟩
        | ok network => exact .inl ⟨_, rfl⟩

/-- Taking credentials follows the rules. -/
lemma answers_onCredentials (hs : s.stage = .advertised) (bytes : Bytes) :
    Answers env s (.credentialsWritten bytes) (conclude (onCredentials env bytes { session := s })) := by
  have hfailed : ∀ e, Answers env s (.credentialsWritten bytes)
      (conclude (.error e { session := { s with credentialKey := none } })) := fun e =>
    answers_failed e s.channel
  rw [onCredentials]
  cases hdecode : NetworkInfo.decode bytes with
  | error e => exact hfailed _
  | ok written =>
    simp only [Steps.bind_apply]
    obtain ⟨network, hnetwork⟩ | ⟨e, herror⟩ :=
      openCredentials_result env written { session := s }
    · simp only [hnetwork]
      cases hport : network.servicePort? with
      | none => exact hfailed _
      | some port => exact .joins hs hdecode hnetwork hport
    · simp only [herror]
      exact hfailed e

/-- Sending an answer. -/
def reply (env : Surroundings) (settings : Settings) (sequence : UInt32) (offer ack : VersionOffer) : Act Unit := do
  acknowledge env sequence .versionNegotiation (some (Json.Record.toJson ack))
  let encryption := EncryptionMode.negotiate settings.encryption offer.publicValue?.isSome
  update fun s => { s with version := some ack.version, encryption }
  enter .versionNegotiated
  emit (.negotiated ack.version encryption)

/-- Without a version in common, that is answered, and the session ends. -/
lemma onVersionNegotiation_outside {sequence : UInt32} {body : Option Json} {offer : VersionOffer}
    (hread : Channel.readBody .versionNegotiation body = .ok offer) (hversion : NoCommonVersion s.settings offer) :
    onVersionNegotiation env sequence body { session := s } =
      (do
        acknowledge env sequence .versionNegotiation (some (Json.Record.toJson (answer s.settings offer)))
        throw (.noCommonVersion offer.range s.settings.versions) : Act Unit) { session := s } := by
  rw [NoCommonVersion] at hversion
  simp only [onVersionNegotiation, Steps.bind_apply, reading_apply, session_apply, hread]
  rw [if_pos hversion]
  rfl

/-- With a version in common, an answer is sent once it is settled, or the session ends if it cannot be. -/
lemma onVersionNegotiation_within (env : Surroundings) (sequence : UInt32) {body : Option Json}
    {offer : VersionOffer} (hread : Channel.readBody .versionNegotiation body = .ok offer)
    (hversion : ¬NoCommonVersion s.settings offer) :
    ∃ used, onVersionNegotiation env sequence body { session := s } =
      match agreement env s.settings offer s.channel with
      | .error e => .error (.crypto e) { session := s, usedRandom := used }
      | .ok (ack, ch) =>
        reply env s.settings sequence offer ack
          { session := { s with channel := ch }, usedRandom := (peerValue? s.settings offer).isSome } := by
  rw [NoCommonVersion] at hversion
  simp only [onVersionNegotiation, Steps.bind_apply, reading_apply, session_apply, hread]
  rw [if_neg hversion, agreement, peerValue?]
  cases (if s.settings.encryption then offer.publicValue? else none) with
  | none => exact ⟨false, rfl⟩
  | some peer =>
    simp only [Steps.bind_apply, agree]
    cases CryptoContext.create env.provider .receiver env.random with
    | error e => exact ⟨false, rfl⟩
    | ok c =>
      simp only [Steps.bind_apply, useRandom_apply]
      cases CryptoContext.deriveText env.provider peer c <;> exact ⟨true, rfl⟩

/-- An answer is sent once it is settled. -/
lemma onVersionNegotiation_eq {sequence : UInt32} {body : Option Json} {offer ack : VersionOffer}
    {ch : Channel} (hread : Channel.readBody .versionNegotiation body = .ok offer)
    (hversion : ¬NoCommonVersion s.settings offer)
    (hagree : agreement env s.settings offer s.channel = .ok (ack, ch)) :
    onVersionNegotiation env sequence body { session := s } =
      reply env s.settings sequence offer ack
        { session := { s with channel := ch }
          usedRandom := (peerValue? s.settings offer).isSome } := by
  obtain ⟨used, hnegotiation⟩ := onVersionNegotiation_within env sequence hread hversion
  rw [hnegotiation, hagree]

/-- An answer that cannot be settled ends the session. -/
lemma onVersionNegotiation_error (env : Surroundings) (sequence : UInt32) {body : Option Json} {offer : VersionOffer}
    {e : CryptoError} (hread : Channel.readBody .versionNegotiation body = .ok offer)
    (hversion : ¬NoCommonVersion s.settings offer)
    (hagree : agreement env s.settings offer s.channel = .error e) :
    ∃ used, onVersionNegotiation env sequence body { session := s } =
      .error (.crypto e) { session := s, usedRandom := used } := by
  obtain ⟨used, hnegotiation⟩ := onVersionNegotiation_within env sequence hread hversion
  exact ⟨used, by rw [hnegotiation, hagree]⟩

/-- Taking an offer follows the rules. -/
lemma answers_onVersionNegotiation {bytes : Bytes} {sequence : UInt32} {body : Option Json}
    {ch₁ : Channel} (hs : s.stage = .handshakeConnected)
    (hreceive : Channel.receive env.provider bytes s.channel =
      .ok (.action sequence .versionNegotiation body) ch₁) :
    Answers env s (.frame bytes)
      (conclude (onVersionNegotiation env sequence body { session := { s with channel := ch₁ } })) := by
  cases hread : Channel.readBody (α := VersionOffer) .versionNegotiation body with
  | error e =>
    simp only [onVersionNegotiation, Steps.bind_apply, reading_apply, hread]
    exact answers_failed e ch₁
  | ok offer =>
    by_cases hversion : NoCommonVersion s.settings offer
    · rw [onVersionNegotiation_outside (s := { s with channel := ch₁ }) hread hversion]
      simp only [acknowledge, Steps.bind_apply, onChannel_apply, staged_channel, staged_withChannel]
      cases hack : Channel.sendAck env.provider sequence .versionNegotiation
          (some (Json.Record.toJson (answer s.settings offer))) ch₁ with
      | error e ch₂ => exact answers_failed e ch₂
      | ok reply ch₂ => exact .declined hs hreceive hread hversion hack
    · cases hagree : agreement env s.settings offer ch₁ with
      | error e =>
        obtain ⟨used, herror⟩ :=
          onVersionNegotiation_error env sequence (s := { s with channel := ch₁ }) hread hversion hagree
        rw [herror]
        exact .failed ch₁ s.awaitingDecision s.reported used
      | ok settled =>
        obtain ⟨ack, ch₂⟩ := settled
        rw [onVersionNegotiation_eq (s := { s with channel := ch₁ }) hread hversion hagree]
        simp only [reply, acknowledge, Steps.bind_apply, onChannel_apply, staged_channel, staged_withChannel]
        cases hack : Channel.sendAck env.provider sequence .versionNegotiation
            (some (Json.Record.toJson ack)) ch₂ with
        | error e ch₃ =>
          exact .failed ch₃ s.awaitingDecision s.reported (peerValue? s.settings offer).isSome
        | ok bytes ch₃ => exact .negotiated hs hreceive hread hversion hagree hack

/-- What a report does. -/
lemma report_apply (outcome : Outcome) (reason : String) (t : Turn) :
    report env outcome reason t =
      match t.session.task? with
      | none => .error .noTask t
      | some id =>
        match Channel.sendAction env.provider .status (some (reportJson id outcome reason)) t.session.channel with
        | .error e channel => .error e { t with session := { t.session with channel } }
        | .ok bytes channel =>
          .ok ()
            { t with
              session := { t.session with channel, reported := some outcome }
              intents := t.intents ++ [.send bytes] } := by
  simp only [report, Steps.bind_apply, currentTask_apply]
  cases t.session.task? with
  | none => rfl
  | some id =>
    simp only [onChannel_apply, staged_channel, staged_withChannel, reportJson]
    cases Channel.sendAction env.provider .status
      (some (Json.Record.toJson (StatusReport.ofOutcome id outcome reason))) t.session.channel <;> rfl

/-- A report is sent, or fails without a trace but in the channel. -/
lemma report_cases (env : Surroundings) (outcome : Outcome) (reason : String) (t : Turn) :
    (∃ e channel, report env outcome reason t = .error e { t with session := { t.session with channel } }) ∨
    ∃ id bytes channel, t.session.task? = some id ∧
      Channel.sendAction env.provider .status (some (reportJson id outcome reason)) t.session.channel =
        .ok bytes channel ∧
      report env outcome reason t =
        .ok ()
          { t with
            session := { t.session with channel, reported := some outcome }
            intents := t.intents ++ [.send bytes] } := by
  rw [report_apply]
  cases htask : t.session.task? with
  | none => exact .inl ⟨.noTask, t.session.channel, rfl⟩
  | some id =>
    cases hsend : Channel.sendAction env.provider .status (some (reportJson id outcome reason)) t.session.channel with
    | error e channel => exact .inl ⟨e, channel, by simp only [hsend]⟩
    | ok bytes channel => exact .inr ⟨id, bytes, channel, rfl, hsend, by simp only [hsend]⟩

/-- An announcement is acknowledged, and then what it announces decides. -/
lemma onSendRequest_eq {sequence : UInt32} {body : Option Json} {request : SendRequest} {id : String} {reply : Bytes}
    {channel : Channel} {t : Turn} (hread : Channel.readBody .sendRequest body = .ok request)
    (htask : request.task? = some id)
    (hack : Channel.sendAck env.provider sequence .sendRequest none t.session.channel = .ok reply channel) :
    onSendRequest env sequence body t =
      let r := { t.session with stage := .requestReceived, channel, request := some request }
      match request.catShareText with
      | some text =>
        match Channel.sendAction env.provider .status (some (reportJson id .ok "")) channel with
        | .error e channel =>
          .error e
            { t with session := { r with channel }, intents := t.intents ++ [.send reply, .textReceived id text] }
        | .ok report channel =>
          .ok ()
            { t with
              session := { r with channel, reported := some .ok }
              intents := t.intents ++ [.send reply, .textReceived id text, .send report] }
      | none =>
        if t.session.settings.autoAccept then
          .ok ()
            { t with session := { r with stage := .downloading }, intents := t.intents ++ [.send reply, .download id] }
        else
          .ok ()
            { t with
              session := { r with awaitingDecision := true }
              intents := t.intents ++ [.send reply, .confirmRequest request] } := by
  simp only [onSendRequest, Steps.bind_apply, reading_apply, hread, htask, acknowledge, onChannel_apply,
    staged_channel, staged_withChannel, hack, emit_apply, enter_apply, staged_atStage, update_apply]
  cases request.catShareText with
  | some text =>
    simp only [Steps.bind_apply, emit_apply, report_apply, task?, Option.bind_some, htask]
    cases Channel.sendAction env.provider .status (some (reportJson id .ok "")) channel <;> simp
  | none =>
    simp only [Steps.bind_apply, session_apply]
    split_ifs <;> simp [startDownload, task?, htask]

/-- Taking an announcement follows the rules. -/
lemma answers_onSendRequest {bytes : Bytes} {sequence : UInt32} {body : Option Json}
    {ch₁ : Channel} (hs : s.stage = .versionNegotiated)
    (hreceive : Channel.receive env.provider bytes s.channel =
      .ok (.action sequence .sendRequest body) ch₁) :
    Answers env s (.frame bytes)
      (conclude (onSendRequest env sequence body { session := { s with channel := ch₁ } })) := by
  cases hread : Channel.readBody (α := SendRequest) .sendRequest body with
  | error e =>
    simp only [onSendRequest, Steps.bind_apply, reading_apply, hread]
    exact answers_failed e ch₁
  | ok request =>
    cases htask : request.task? with
    | none =>
      simp only [onSendRequest, Steps.bind_apply, reading_apply, hread, htask]
      exact answers_failed _ ch₁
    | some id =>
      cases hack : Channel.sendAck env.provider sequence .sendRequest none ch₁ with
      | error e ch₂ =>
        simp only [onSendRequest, Steps.bind_apply, reading_apply, hread, htask, acknowledge, onChannel_apply,
          staged_channel, staged_withChannel, hack]
        exact answers_failed e ch₂
      | ok reply ch₂ =>
        rw [onSendRequest_eq hread htask hack]
        cases htext : request.catShareText with
        | some text =>
          cases hsend : Channel.sendAction env.provider .status (some (reportJson id .ok "")) ch₂ with
          | error e ch₃ => exact .unreported ch₃ hs hreceive hread htask hack htext
          | ok report ch₃ => exact .shows hs hreceive hread htask hack htext hsend
        | none =>
          simp only
          split_ifs with hauto
          · exact .downloads hs hreceive hread htask hack htext hauto
          · exact .asks hs hreceive hread htask hack htext (by simpa using hauto)

/-- Taking the decision of the user follows the rules. -/
lemma answers_onDecision (hs : s.stage = .requestReceived) (hawaiting : s.awaitingDecision = true)
    (accept : Bool) :
    Answers env s (.decision accept) (conclude (onDecision env accept { session := s })) := by
  have hfailed : ∀ e channel, Answers env s (.decision accept)
      (conclude (.error e { session := { s with awaitingDecision := false, channel } })) := fun e channel =>
    .failed channel false s.reported false
  simp only [onDecision, Steps.bind_apply, update_apply]
  cases accept with
  | true =>
    simp only [if_true, startDownload, Steps.bind_apply, currentTask_apply, task?]
    cases htask : s.request.bind (·.task?) with
    | none => exact hfailed _ s.channel
    | some id => exact .accepts hs hawaiting htask
  | false =>
    simp only [Bool.false_eq_true, if_false]
    obtain ⟨e, channel, hreport⟩ | ⟨id, bytes, channel, htask, hsend, hreport⟩ :=
      report_cases env .refused "user refuse" { session := { s with awaitingDecision := false } }
    · rw [hreport]
      exact hfailed e channel
    · rw [hreport]
      exact .refuses hs hawaiting htask hsend

/-- Taking the result of a download follows the rules. -/
lemma answers_onDownloadFinished (hs : s.stage = .downloading) (hreported : s.reported = none)
    (result : Except String (List String)) :
    Answers env s (.downloadFinished result) (conclude (onDownloadFinished env result { session := s })) := by
  simp only [onDownloadFinished, Steps.bind_apply, session_apply]
  cases hrequest : s.request with
  | none => exact answers_failed _ s.channel
  | some request =>
    simp only
    cases hfault : fault? request result with
    | none =>
      obtain ⟨e, channel, hreport⟩ | ⟨id, bytes, channel, htask, hsend, hreport⟩ :=
        report_cases env .ok "" { session := s }
      · simp only [hreport]
        exact answers_failed e channel
      · simp only [hreport]
        exact .downloaded hs hreported hrequest hfault htask hsend
    | some reason =>
      simp only [Steps.bind_apply]
      obtain ⟨e, channel, hreport⟩ | ⟨id, bytes, channel, htask, hsend, hreport⟩ :=
        report_cases env .error reason { session := s }
      · simp only [hreport]
        exact answers_failed e channel
      · simp only [hreport]
        exact .spoiled hs hreported hrequest hfault htask hsend

/-- Taking the acknowledgement of the report follows the rules. -/
lemma answers_onStatusAck {bytes : Bytes} {body : Option Json} {channel : Channel} {outcome : Outcome}
    (hreceive : Channel.receive env.provider bytes s.channel = .ok (.ack .status body) channel)
    (hreported : s.reported = some outcome) :
    Answers env s (.frame bytes) (conclude (onStatusAck outcome { session := { s with channel } })) := by
  have hfailed : ∀ e, Answers env s (.frame bytes)
      (conclude (.error e { session := { s with channel, reported := none } })) := fun e =>
    .failed channel s.awaitingDecision none false
  simp only [onStatusAck, Steps.bind_apply, update_apply]
  cases outcome with
  | refused => exact hfailed _
  | error => exact hfailed _
  | ok =>
    simp only [Steps.bind_apply, currentTask_apply, task?]
    cases htask : s.request.bind (·.task?) with
    | none => exact hfailed _
    | some id => exact .completed hreceive hreported htask

/-- Taking a frame follows the rules. -/
lemma answers_onInbound (env : Surroundings) (bytes : Bytes) :
    Answers env s (.frame bytes)
      (conclude ((do onInbound env (← onChannel (Channel.receive env.provider bytes))) { session := s })) := by
  simp only [Steps.bind_apply, onChannel_apply, staged_channel, staged_withChannel]
  cases hreceive : Channel.receive env.provider bytes s.channel with
  | error e channel => exact answers_failed e channel
  | ok inbound channel =>
    have hrefused : ∀ e, Answers env s (.frame bytes)
        (conclude (.error e { session := { s with channel } })) := fun e => answers_failed e channel
    simp only [onInbound, Steps.bind_apply, session_apply]
    obtain ⟨settings, stage, channel₀, credentialKey, request, awaiting, reported, version, encryption⟩ := s
    cases inbound with
    | ack action body =>
      cases action with
      | status =>
        cases reported with
        | none => cases stage <;> exact hrefused _
        | some outcome => cases stage <;> exact answers_onStatusAck hreceive rfl
      | versionNegotiation => cases stage <;> exact hrefused _
      | sendRequest => cases stage <;> exact hrefused _
    | action sequence action body =>
      cases stage with
      | handshakeConnected =>
        cases action with
        | versionNegotiation => exact answers_onVersionNegotiation rfl hreceive
        | _ => exact hrefused _
      | versionNegotiated =>
        cases action with
        | sendRequest => exact answers_onSendRequest rfl hreceive
        | _ => exact hrefused _
      | _ => exact hrefused _

/-- A step that does not end the session at once is within the rules. -/
lemma answers_step {event : Event} (he : event ≠ .abort) :
    Answers env s event (conclude (step env event { session := s })) := by
  have hrefused : ∀ e, Answers env s event (conclude (.error e { session := s })) := fun e =>
    answers_failed e s.channel
  have hframe := answers_onInbound env (s := s)
  obtain ⟨settings, stage, channel, credentialKey, request, awaiting, reported, version, encryption⟩ := s
  cases event with
  | publish =>
    cases stage with
    | idle => exact answers_publish rfl
    | _ => exact hrefused _
  | credentialsWritten bytes =>
    cases stage with
    | advertised => exact answers_onCredentials rfl bytes
    | _ => exact hrefused _
  | networkJoined host =>
    cases stage with
    | credentialsReceived port => exact .connects rfl
    | _ => exact hrefused _
  | channelOpened =>
    cases stage with
    | networkJoined => exact .connected rfl
    | _ => exact hrefused _
  | decision accept =>
    cases stage with
    | requestReceived =>
      cases awaiting with
      | false => exact hrefused _
      | true => exact answers_onDecision rfl rfl accept
    | _ => exact hrefused _
  | downloadFinished result =>
    cases stage with
    | downloading =>
      cases reported with
      | none => exact answers_onDownloadFinished rfl rfl result
      | some outcome => exact hrefused _
    | _ => exact hrefused _
  | frame bytes => cases stage <;> exact hframe bytes
  | abort => exact absurd rfl he
  | networkJoinFailed reason => cases stage <;> exact hrefused _
  | timedOut => cases stage <;> exact hrefused _
  | channelClosed => cases stage <;> exact hrefused _

/-- A receiver that has not ended follows the rules. -/
theorem handle_answers (env : Surroundings) (hs : s.stage.isTerminal = false) (event : Event) :
    Answers env s event (handle env event s) := by
  by_cases habort : event = .abort
  · subst habort
    rw [handle, if_neg (by simp [hs])]
    exact answers_failed .aborted s.channel
  · rw [handle_eq hs habort]
    exact answers_step habort

/-- No event makes a receiver crash. -/
lemma handle_returns (env : Surroundings) (event : Event) (s : Receiver) :
    (handle env event s).crashed = false := by
  cases hs : s.stage.isTerminal with
  | true => rw [handle_of_isTerminal hs]
  | false =>
    have hturn := handle_answers env hs event
    revert hturn
    generalize handle env event s = t
    intro hturn
    cases hturn <;> rfl

end Rules

/-! ### What the rules make a receiver do -/

section Dispatch

variable {env : Surroundings} {t : Turn}

/-- A frame is received, and then handled by what it is. -/
lemma step_frame (bytes : Bytes) :
    step env (.frame bytes) t =
      (do onInbound env (← onChannel (Channel.receive env.provider bytes))) t := by
  simp only [step, Steps.bind_apply, session_apply]

/-- Credentials are taken by a receiver that is advertised. -/
lemma step_credentialsWritten (hs : t.session.stage = .advertised) (bytes : Bytes) :
    step env (.credentialsWritten bytes) t = onCredentials env bytes t := by
  simp only [step, Steps.bind_apply, session_apply, hs]

/-- A decision is taken by a receiver that has asked for it. -/
lemma step_decision (hs : t.session.stage = .requestReceived) (hawaiting : t.session.awaitingDecision = true)
    (accept : Bool) : step env (.decision accept) t = onDecision env accept t := by
  simp only [step, Steps.bind_apply, session_apply, hs, hawaiting, if_true]

/-- The result of a download is taken by a receiver that downloads. -/
lemma step_downloadFinished (hs : t.session.stage = .downloading) (hreported : t.session.reported = none)
    (result : Except String (List String)) :
    step env (.downloadFinished result) t = onDownloadFinished env result t := by
  simp only [step, Steps.bind_apply, session_apply, hs, hreported, Option.isNone_none, if_true]

/-- The acknowledgement of the report is taken by a receiver that has reported. -/
lemma onInbound_statusAck {outcome : Outcome} (hreported : t.session.reported = some outcome)
    (body : Option Json) : onInbound env (.ack .status body) t = onStatusAck outcome t := by
  simp only [onInbound, Steps.bind_apply, session_apply, hreported]

/-- An offer is taken by a receiver that waits for it. -/
lemma onInbound_offer (hs : t.session.stage = .handshakeConnected) (sequence : UInt32) (body : Option Json) :
    onInbound env (.action sequence .versionNegotiation body) t = onVersionNegotiation env sequence body t := by
  simp only [onInbound, Steps.bind_apply, session_apply, hs]

/-- An announcement is taken by a receiver that has agreed on a version. -/
lemma onInbound_request (hs : t.session.stage = .versionNegotiated) (sequence : UInt32) (body : Option Json) :
    onInbound env (.action sequence .sendRequest body) t = onSendRequest env sequence body t := by
  simp only [onInbound, Steps.bind_apply, session_apply, hs]

end Dispatch

section Turns

variable {env : Surroundings} {s : Receiver}

/-- What a receiver does with a frame depends on what its channel receives. -/
lemma handle_frame (hs : s.stage.isTerminal = false) {bytes : Bytes} {inbound : Inbound} {channel : Channel}
    (hreceive : Channel.receive env.provider bytes s.channel = .ok inbound channel) :
    handle env (.frame bytes) s = conclude (onInbound env inbound { session := { s with channel } }) := by
  rw [handle_eq hs (show Event.frame bytes ≠ .abort from nofun)]
  simp only [step_frame, Steps.bind_apply, onChannel_apply, staged_channel, staged_withChannel, hreceive]

/-- A receiver that has negotiated a version does what an announcement tells. -/
lemma handle_sendRequest (hs : s.stage = .versionNegotiated) {bytes : Bytes} {sequence : UInt32}
    {body : Option Json} {channel : Channel}
    (hreceive : Channel.receive env.provider bytes s.channel = .ok (.action sequence .sendRequest body) channel) :
    handle env (.frame bytes) s = conclude (onSendRequest env sequence body { session := { s with channel } }) := by
  rw [handle_frame (by rw [hs]; rfl) hreceive, onInbound_request hs]

/-- A receiver does what a rule says, unless that is to fail. -/
theorem handle_of_answers {event : Event} {t : Turn} (hs : s.stage.isTerminal = false)
    (h : Answers env s event t) (ht : ∀ e, t.session.stage ≠ .failed e) : handle env event s = t := by
  have hstart : event ≠ .abort → step env event { session := s } = .ok () t → handle env event s = t := by
    intro he hstep
    rw [handle_eq hs he, hstep]
    rfl
  obtain ⟨settings, stage, channel, credentialKey, request, awaiting, reported, version, encryption⟩ := s
  cases h with
  | published hs =>
    cases hs
    refine hstart nofun ?_
    obtain ⟨_, _, _, _, _, encryption, _, _, _, _, _⟩ := settings
    cases encryption <;> rfl
  | joins hs hdecode hnetwork hport =>
    cases hs
    refine hstart nofun ?_
    rw [step_credentialsWritten rfl, onCredentials, hdecode]
    simp only [Steps.bind_apply, hnetwork, hport, enter_apply, emit_apply]
    rfl
  | connects hs =>
    cases hs
    exact hstart nofun rfl
  | connected hs =>
    cases hs
    exact hstart nofun rfl
  | @negotiated _ _ sequence body offer ack ch₁ ch₂ ch₃ hs hreceive hread hversion hagree hack =>
    cases hs
    rw [handle_frame rfl hreceive, onInbound_offer rfl, onVersionNegotiation_eq (s := ⟨settings, .handshakeConnected,
      ch₁, credentialKey, request, awaiting, reported, version, encryption⟩) hread hversion hagree]
    simp only [reply, acknowledge, Steps.bind_apply, onChannel_apply, staged_channel, staged_withChannel, hack,
      emit_apply, update_apply, enter_apply]
    rfl
  | downloads hs hreceive hread htask hack htext hauto =>
    rw [handle_sendRequest hs hreceive, onSendRequest_eq hread htask hack]
    simp only [htext]
    rw [if_pos hauto]
    rfl
  | asks hs hreceive hread htask hack htext hauto =>
    rw [handle_sendRequest hs hreceive, onSendRequest_eq hread htask hack]
    simp only [htext]
    rw [if_neg (Bool.eq_false_iff.1 hauto)]
    rfl
  | shows hs hreceive hread htask hack htext hsend =>
    rw [handle_sendRequest hs hreceive, onSendRequest_eq hread htask hack]
    simp only [htext, hsend]
    rfl
  | accepts hs hawaiting htask =>
    cases hs
    cases hawaiting
    refine hstart nofun ?_
    rw [step_decision rfl rfl]
    rw [task?] at htask
    simp [onDecision, startDownload, task?, htask]
  | refuses hs hawaiting htask hsend =>
    cases hs
    cases hawaiting
    refine hstart nofun ?_
    rw [step_decision rfl rfl]
    rw [task?] at htask
    simp [onDecision, report_apply, task?, htask, hsend]
  | downloaded hs hreported hrequest hfault htask hsend =>
    cases hs
    cases hreported
    cases hrequest
    refine hstart nofun ?_
    rw [step_downloadFinished rfl rfl]
    simp [onDownloadFinished, hfault, report_apply, htask, hsend]
  | completed hreceive hreported htask =>
    cases hreported
    rw [handle_frame hs hreceive, onInbound_statusAck rfl]
    rw [task?] at htask
    simp only [onStatusAck, Steps.bind_apply, update_apply, currentTask_apply, task?, htask]
    rfl
  | declined => exact absurd rfl (ht _)
  | unreported => exact absurd rfl (ht _)
  | spoiled => exact absurd rfl (ht _)
  | failed => exact absurd rfl (ht _)

/-- A receiver fails when there is no version in common, but says so before. -/
lemma handle_noCommonVersion {bytes reply : Bytes} {sequence : UInt32} {body : Option Json}
    {offer : VersionOffer} {ch₁ ch₂ : Channel} (hs : s.stage = .handshakeConnected)
    (hreceive : Channel.receive env.provider bytes s.channel =
      .ok (.action sequence .versionNegotiation body) ch₁)
    (hread : Channel.readBody .versionNegotiation body = .ok offer)
    (hversion : NoCommonVersion s.settings offer)
    (hack : Channel.sendAck env.provider sequence .versionNegotiation
      (some (Json.Record.toJson (answer s.settings offer))) ch₁ = .ok reply ch₂) :
    handle env (.frame bytes) s =
      fail (.noCommonVersion offer.range s.settings.versions)
        { session := { s with channel := ch₂ }, intents := [.send reply] } := by
  rw [handle_frame (by rw [hs]; rfl) hreceive, onInbound_offer hs,
    onVersionNegotiation_outside (s := { s with channel := ch₁ }) hread hversion]
  simp only [acknowledge, Steps.bind_apply, onChannel_apply, staged_channel, staged_withChannel, hack]
  rfl

/-- A receiver whose refusal is acknowledged fails with it. -/
lemma handle_refusalAck {bytes : Bytes} {body : Option Json} {channel : Channel}
    (hs : s.stage.isTerminal = false)
    (hreceive : Channel.receive env.provider bytes s.channel = .ok (.ack .status body) channel)
    (hreported : s.reported = some .refused) :
    handle env (.frame bytes) s = fail .refused { session := { s with channel, reported := none } } := by
  rw [handle_frame hs hreceive, onInbound_statusAck hreported]
  rfl

end Turns

/-! ### What has come -/

section Arrivals

variable {request : SendRequest} {names others : List String}

/-- Texts in order are the same just if they are the same in any order. -/
lemma sorted_eq_iff : sorted names = sorted others ↔ names.Perm others := by
  have hnames := List.mergeSort_perm names fun a b => decide (a ≤ b)
  have hothers := List.mergeSort_perm others fun a b => decide (a ≤ b)
  have htrans : ∀ a b c : String, decide (a ≤ b) = true → decide (b ≤ c) = true → decide (a ≤ c) = true := by
    intro a b c hab hbc
    exact decide_eq_true (le_trans (of_decide_eq_true hab) (of_decide_eq_true hbc))
  have htotal : ∀ a b : String, (decide (a ≤ b) || decide (b ≤ a)) = true := by
    intro a b
    simpa using le_total a b
  have hantisymm : ∀ a b : String, decide (a ≤ b) = true → decide (b ≤ a) = true → a = b := by
    intro a b hab hba
    exact le_antisymm (of_decide_eq_true hab) (of_decide_eq_true hba)
  constructor
  · intro h
    rw [sorted, sorted] at h
    rw [h] at hnames
    exact hnames.symm.trans hothers
  · intro h
    apply List.Perm.eq_of_pairwise (fun a b _ _ => hantisymm a b)
    · exact List.pairwise_mergeSort htrans htotal names
    · exact List.pairwise_mergeSort htrans htotal others
    · exact hnames.trans (h.trans hothers.symm)

/-- The files with the given names are those that a request announces: it lists them, in any order, or lists nothing
and tells how many there are. -/
inductive Complete (request : SendRequest) (names : List String) : Prop
  | listed : request.files ≠ [] → names.Perm (request.files.map (·.name)) → Complete request names
  | counted : request.files = [] → names.length = request.fileCount.toNat → Complete request names

/-- Names match a request exactly if they are complete. -/
lemma mismatch?_eq_none_iff : mismatch? request names = none ↔ Complete request names := by
  rw [mismatch?]
  by_cases hfiles : request.files = []
  · rw [if_pos hfiles, ite_eq_left_iff]
    constructor
    · intro h
      refine .counted hfiles ?_
      by_contra hcount
      cases h hcount
    · intro h hcount
      cases h with
      | listed hne => exact absurd hfiles hne
      | counted _ hlength => exact absurd hlength hcount
  · rw [if_neg hfiles, ite_eq_left_iff]
    constructor
    · intro h
      refine .listed hfiles (sorted_eq_iff.1 ?_)
      by_contra hsorted
      cases h hsorted
    · intro h hsorted
      cases h with
      | listed _ hperm => exact absurd (sorted_eq_iff.2 hperm) hsorted
      | counted hnil => exact absurd hnil hfiles

end Arrivals

end DirectShare.Receiver
