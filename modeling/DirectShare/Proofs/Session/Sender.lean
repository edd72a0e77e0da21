import Mathlib
import DirectShare.Proofs.Session.Turn
import DirectShare.Session.Sender

/-!
# What senders do

Everything that a sender can do with an event is one of the rules of `Sender.Answers`. What holds of
every rule holds of every step of a sender.

`Sender.handle_answers` says that a sender follows the rules, by cases on the stage and the event, and each
handler has its own lemma. `Sender.handle_of_answers` is the other direction for the rules that do not fail,
so that a rule computes a turn.
-/

namespace DirectShare.Sender

open Act

/-! ### The steps of a turn -/

section Steps

variable (t : Turn)

/-- A sender that enters a stage. -/
@[simp] lemma staged_atStage (stage : Stage) (s : Sender) : Staged.atStage stage s = { s with stage } := rfl

/-- The channel of a sender, as steps see it. -/
@[simp] lemma staged_channel (s : Sender) : Staged.channel s = s.channel := rfl

/-- A sender whose channel has done something. -/
@[simp] lemma staged_withChannel (channel : Channel) (s : Sender) :
    Staged.withChannel channel s = { s with channel } := rfl

/-- A sender without a job cannot go on with it. -/
@[simp] lemma currentJob_apply : currentJob t = match t.session.job with
    | none => .error .noTask t
    | some j => .ok j t := by
  simp only [currentJob, Steps.bind_apply, session_apply]
  cases t.session.job <;> rfl

/-- The table takes a change, or refuses it and stays as it is. -/
lemma onTable_apply (change : TaskTable → Except TaskError TaskTable) :
    onTable change t = match change t.table with
      | .error e => .error (.task e) t
      | .ok table => .ok () { t with table } := by
  simp only [onTable, Steps.bind_apply, Steps.get_apply]
  cases change t.table <;> rfl

end Steps

/-! ### The rules -/

/-- The offer of a sender that takes the given share in an encryption. -/
def offer (settings : Settings) (crypto : Option CryptoContext) : VersionOffer :=
  { VersionOffer.ofRange settings.maxVersion settings.versions with
    supportsEncryption := crypto.isSome
    ephemeralPublicValue := crypto.bind (·.publicText?) }

/-- The share in the encryption that a sender takes, if it wants encryption. -/
def share (env : Surroundings) (settings : Settings) : Except CryptoError (Option CryptoContext) :=
  if settings.encryption then (CryptoContext.create env.provider .sender env.random).map some
  else .ok none

/-- The channel with a share in the encryption, if one is taken. -/
def holding (ch : Channel) : Option CryptoContext → Channel
  | none => ch
  | some c => { ch with crypto := some c }

/-- Agrees on a key if the receiver wants it too, and drops the share in the encryption otherwise. -/
def settle (p : Provider) (settings : Settings) (ack : VersionOffer) : EStateM Failure Channel Unit :=
  match (if settings.encryption then ack.publicValue? else none) with
  | some value => Channel.derive p value
  | none => modify Channel.discardCrypto

/-- What a sender has agreed on with the receiver. -/
def agreed (s : Sender) (ack : VersionOffer) : Sender :=
  { s with
    version := some (min s.settings.maxVersion ack.version)
    encryption := EncryptionMode.negotiate s.settings.encryption ack.publicValue?.isSome }

/-- The failure that comes of a report, unless the report is of a success. -/
def reportFailure? (report : StatusReport) : Option Failure :=
  match report.outcome with
  | .ok => none
  | .error => some (.reportedError report.reason)
  | .refused => some (.reportedRefusal report.reason)

/-- The failure is a fault: it comes neither of a report nor of the caller's giving up. -/
def IsFault (e : Failure) : Prop := e.kind ≠ .transferRefused ∧ e.kind ≠ .streamCorrupted ∧ e ≠ .aborted

/-- How a sender that has not ended answers an event. -/
inductive Answers (env : Surroundings) (s : Sender) (table : TaskTable) : Event → Turn → Prop
  /-- The task is registered. -/
  | began {task : SharedTask} {network : NetworkInfo} {port : UInt16} {totalSize : UInt64} {table' : TaskTable} :
      s.stage = .idle → network.servicePort? = some port → task.totalSize? = some totalSize →
      table.register task env.now = .ok table' →
      Answers env s table (.begin task network)
        { session :=
            { s with
              stage := .advertising
              job := some { taskId := task.id, request := task.announce totalSize s.id s.settings.deviceName,
                            network, port } }
          table := table'
          intents := [.readDeviceInfo] }
  /-- The sizes of the files do not add up in 64 bits. -/
  | crashed {task : SharedTask} {network : NetworkInfo} {port : UInt16} :
      s.stage = .idle → network.servicePort? = some port → task.totalSize? = none →
      Answers env s table (.begin task network) { session := s, table, crashed := true }
  /-- The credentials are to be written. -/
  | described {bytes : Bytes} {info : DeviceInfo} {j : Job} {written : NetworkInfo} {used : Bool} :
      s.stage = .advertising → s.peer = none → DeviceInfo.decode bytes = .ok info → s.job = some j →
      credentialsFor env info j.network { session := s, table } =
        .ok written { session := s, table, usedRandom := used } →
      Answers env s table (.deviceInfoRead bytes)
        { session := { s with peer := some info }
          table
          intents := [.writeCredentials (Json.Record.encode written)]
          usedRandom := used }
  /-- The receiver is awaited. -/
  | awaits {j : Job} {info : DeviceInfo} :
      s.stage = .advertising → s.peer = some info → s.job = some j →
      Answers env s table .credentialsWritten
        { session := { s with stage := .credentialsWritten }, table, intents := [.awaitPeer j.port] }
  /-- The receiver has come. -/
  | joined {j : Job} :
      s.stage = .credentialsWritten → s.job = some j →
      Answers env s table (.peerConnected j.port)
        { session := { s with stage := .networkJoinObserved }, table }
  /-- The version negotiation is sent. -/
  | offered {crypto : Option CryptoContext} {bytes : Bytes} {channel : Channel} :
      s.stage = .networkJoinObserved → share env s.settings = .ok crypto →
      Channel.sendAction env.provider .versionNegotiation
        (some (Json.Record.toJson (offer s.settings crypto))) (holding s.channel crypto) =
          .ok bytes channel →
      Answers env s table .channelOpened
        { session := { s with stage := .handshakeConnected, channel }
          table
          intents := [.send bytes]
          usedRandom := crypto.isSome }
  /-- The version is agreed on, and the task announced. -/
  | announced {bytes request : Bytes} {body : Option Json} {ack : VersionOffer} {j : Job}
      {ch₁ ch₂ ch₃ : Channel} :
      s.stage = .handshakeConnected →
      Channel.receive env.provider bytes s.channel = .ok (.ack .versionNegotiation body) ch₁ →
      Channel.readBody .versionNegotiation body = .ok ack →
      ack.version ∈ s.settings.versions → ack.version ∈ ack.range →
      settle env.provider s.settings ack ch₁ = .ok () ch₂ → s.job = some j →
      Channel.sendAction env.provider .sendRequest (some (Json.Record.toJson j.request)) ch₂ =
        .ok request ch₃ →
      Answers env s table (.frame bytes)
        { session := { s.agreed ack with stage := .requestSent, channel := ch₃ }
          table
          intents :=
            [.negotiated (min s.settings.maxVersion ack.version)
              (EncryptionMode.negotiate s.settings.encryption ack.publicValue?.isSome), .send request] }
  /-- The version is agreed on, but the task cannot be announced. -/
  | unannounced {bytes : Bytes} {body : Option Json} {ack : VersionOffer} {e : Failure}
      {ch₁ ch₂ : Channel} (ch₃ : Channel) :
      s.stage = .handshakeConnected →
      Channel.receive env.provider bytes s.channel = .ok (.ack .versionNegotiation body) ch₁ →
      Channel.readBody .versionNegotiation body = .ok ack →
      ack.version ∈ s.settings.versions → ack.version ∈ ack.range →
      settle env.provider s.settings ack ch₁ = .ok () ch₂ → IsFault e →
      Answers env s table (.frame bytes)
        (fail env e
          { session := { s.agreed ack with channel := ch₃ }
            table
            intents :=
              [.negotiated (min s.settings.maxVersion ack.version)
                (EncryptionMode.negotiate s.settings.encryption ack.publicValue?.isSome)] })
  /-- The task may be downloaded. -/
  | authorized {bytes : Bytes} {body : Option Json} {j : Job} {channel : Channel} {table' : TaskTable} :
      s.stage = .requestSent →
      Channel.receive env.provider bytes s.channel = .ok (.ack .sendRequest body) channel →
      s.job = some j → table.request j.taskId = .ok table' →
      Answers env s table (.frame bytes)
        { session := { s with stage := .requestAcked, channel }
          table := table'
          intents := [.serveAuthorized j.taskId] }
  /-- The download has begun. -/
  | serves :
      s.stage = .requestAcked →
      Answers env s table .serveStarted { session := { s with stage := .serving }, table }
  /-- The receiver has all of the task. -/
  | completed {bytes ack : Bytes} {sequence : UInt32} {body : Option Json} {report : StatusReport} {j : Job}
      {ch₁ ch₂ : Channel} {table' : TaskTable} :
      s.stage = .requestAcked ∨ s.stage = .serving →
      Channel.receive env.provider bytes s.channel = .ok (.action sequence .status body) ch₁ →
      Channel.readBody .status body = .ok report → s.job = some j →
      report.task?.filter (· ≠ j.taskId) = none →
      Channel.sendAck env.provider sequence .status none ch₁ = .ok ack ch₂ →
      report.outcome = .ok → table.finish j.taskId .completed env.now = .ok table' →
      Answers env s table (.frame bytes)
        { session := { s with stage := .completed, channel := ch₂.discardCrypto }
          table := table'
          intents := [.send ack, .finished (.ok j.taskId)] }
  /-- The receiver has reported a failure, or its success cannot be noted. -/
  | reported {bytes ack : Bytes} {sequence : UInt32} {body : Option Json} {report : StatusReport} {j : Job}
      {ch₁ ch₂ : Channel} {e : Failure} :
      s.stage = .requestAcked ∨ s.stage = .serving →
      Channel.receive env.provider bytes s.channel = .ok (.action sequence .status body) ch₁ →
      Channel.readBody .status body = .ok report → s.job = some j →
      report.task?.filter (· ≠ j.taskId) = none →
      Channel.sendAck env.provider sequence .status none ch₁ = .ok ack ch₂ →
      (reportFailure? report = some e ∨
        report.outcome = .ok ∧ ∃ te, table.finish j.taskId .completed env.now = .error te ∧ e = .task te) →
      Answers env s table (.frame bytes)
        (fail env e { session := { s with channel := ch₂ }, table, intents := [.send ack] })
  /-- The session fails before it has said anything. -/
  | failed {event : Event} {e : Failure} (channel : Channel) (used : Bool) :
      IsFault e →
      Answers env s table event
        (fail env e { session := { s with channel }, table, usedRandom := used })
  /-- The caller has given up. -/
  | gaveUp : Answers env s table .abort (giveUp { session := s, table })

/-! ### Faults -/

section IsFault

variable {p : Provider} {ch ch' : Channel} {e : Failure}

/-- A violation of the protocol is a fault. -/
lemma isFault_of_violation (h : e.kind = .protocolViolation) : IsFault e := by
  refine ⟨by simp [h], by simp [h], ?_⟩
  rintro rfl
  cases h

/-- An event that comes at the wrong time is a fault. -/
lemma isFault_unexpected (what stage : String) : IsFault (.unexpected what stage) :=
  isFault_of_violation rfl

/-- A failure of the cryptography is a fault. -/
lemma isFault_crypto (e : CryptoError) : IsFault (.crypto e) := by
  cases e <;> exact ⟨nofun, nofun, nofun⟩

/-- A failure of the table is a fault. -/
lemma isFault_task (e : TaskError) : IsFault (.task e) := by
  cases e <;> exact ⟨nofun, nofun, nofun⟩

/-- What fails with the share of the channel is a fault. -/
lemma isFault_withContext {α : Type} {c : CryptoContext} {act : EStateM CryptoError CryptoContext α}
    (h : Channel.withContext c act ch = .error e ch') : IsFault e := by
  rw [Channel.withContext] at h
  split at h
  · cases h
  · cases h
    exact isFault_crypto _

/-- Failing to acknowledge is a fault. -/
lemma isFault_sendAck {sequence : UInt32} {action : Action} {body : Option Json}
    (h : Channel.sendAck p sequence action body ch = .error e ch') : IsFault e := by
  obtain ⟨-, reason, rfl⟩ := Channel.sendAck_failed h
  exact isFault_crypto reason

/-- Failing to send an action is a fault. -/
lemma isFault_sendAction {action : Action} {body : Option Json}
    (h : Channel.sendAction p action body ch = .error e ch') : IsFault e := by
  obtain ⟨-, -, hkind, -⟩ | ⟨-, -, reason, rfl⟩ := Channel.sendAction_failed h
  · exact isFault_of_violation hkind
  · exact isFault_crypto reason

/-- Failing to receive a frame is a fault. -/
lemma isFault_receive {bytes : Bytes} (h : Channel.receive p bytes ch = .error e ch') : IsFault e := by
  obtain hkind | ⟨reason, rfl⟩ := Channel.kind_of_receive_error h
  · exact isFault_of_violation hkind
  · exact isFault_crypto reason

/-- Failing to read a body is a fault. -/
lemma isFault_readBody {α : Type} [Json.Record α] {action : Action} {body : Option Json}
    (h : Channel.readBody (α := α) action body = .error e) : IsFault e := by
  cases body with
  | none =>
    cases h
    exact isFault_of_violation rfl
  | some b =>
    simp only [Channel.readBody] at h
    split at h
    · cases h
      exact isFault_of_violation rfl
    · cases h

/-- Failing to settle on the encryption is a fault. -/
lemma isFault_settle {settings : Settings} {ack : VersionOffer}
    (h : settle p settings ack ch = .error e ch') : IsFault e := by
  rw [settle] at h
  cases hvalue : (if settings.encryption then ack.publicValue? else none) with
  | none =>
    rw [hvalue] at h
    cases h
  | some value =>
    simp only [hvalue, Channel.derive, Steps.bind_apply, Steps.get_apply] at h
    cases hc : ch.crypto with
    | none =>
      rw [hc] at h
      cases h
      exact isFault_of_violation rfl
    | some c =>
      rw [hc] at h
      exact isFault_withContext h

end IsFault

/-! ### Dispatch -/

section Dispatch

variable {env : Surroundings} {t : Turn}

/-- An idle sender takes the order to begin. -/
lemma step_begin (hs : t.session.stage = .idle) (task : SharedTask) (network : NetworkInfo) :
    step env (.begin task network) t = begin env task network t := by
  rw [step, Steps.bind_apply, session_apply]
  simp only [hs]

/-- An advertising sender without a peer takes what the peer says about itself. -/
lemma step_deviceInfoRead (hs : t.session.stage = .advertising) (hpeer : t.session.peer = none)
    (bytes : Bytes) : step env (.deviceInfoRead bytes) t = onDeviceInfo env bytes t := by
  rw [step, Steps.bind_apply, session_apply]
  simp only [hs, hpeer, Option.isNone_none, if_true]

/-- An advertising sender with a peer goes on when its credentials are written. -/
lemma step_credentialsWritten {info : DeviceInfo} (hs : t.session.stage = .advertising)
    (hpeer : t.session.peer = some info) : step env .credentialsWritten t = onCredentialsWritten t := by
  rw [step, Steps.bind_apply, session_apply]
  simp only [hs, hpeer, Option.isSome_some, if_true]

/-- A sender whose credentials are written takes the connection of its peer. -/
lemma step_peerConnected (hs : t.session.stage = .credentialsWritten) (port : UInt16) :
    step env (.peerConnected port) t = onPeerConnected port t := by
  rw [step, Steps.bind_apply, session_apply]
  simp only [hs]

/-- A sender whose peer has connected takes the opening of the channel. -/
lemma step_channelOpened (hs : t.session.stage = .networkJoinObserved) :
    step env .channelOpened t = onChannelOpened env t := by
  rw [step, Steps.bind_apply, session_apply]
  simp only [hs]

/-- A frame is received, and what it says is acted on. -/
lemma step_frame (bytes : Bytes) :
    step env (.frame bytes) t =
      (do onInbound env (← onChannel (Channel.receive env.provider bytes))) t := by
  rw [step, Steps.bind_apply, session_apply]
  cases hs : t.session.stage <;> simp only [hs]

/-- A sender whose channel is open takes the answer to its offer. -/
lemma onInbound_versionAck (hs : t.session.stage = .handshakeConnected) (body : Option Json) :
    onInbound env (.ack .versionNegotiation body) t = onVersionAck env body t := by
  simp only [onInbound, Steps.bind_apply, session_apply, hs]

/-- A sender that has announced its task takes the acknowledgement of that. -/
lemma onInbound_requestAck (hs : t.session.stage = .requestSent) (body : Option Json) :
    onInbound env (.ack .sendRequest body) t = onRequestAck t := by
  simp only [onInbound, Steps.bind_apply, session_apply, hs]

/-- A sender that is serving takes a report. -/
lemma onInbound_status (hs : t.session.stage = .requestAcked ∨ t.session.stage = .serving)
    (sequence : UInt32) (body : Option Json) :
    onInbound env (.action sequence .status body) t = onStatus env sequence body t := by
  obtain hs | hs := hs <;> simp only [onInbound, Steps.bind_apply, session_apply, hs]

/-- There are three things that a session waits for, each at its stages, and it refuses everything else. -/
lemma onInbound_cases (env : Surroundings) (stage : Stage) (inbound : Inbound) :
    (stage = .handshakeConnected ∧ ∃ body, inbound = .ack .versionNegotiation body) ∨
    (stage = .requestSent ∧ ∃ body, inbound = .ack .sendRequest body) ∨
    ((stage = .requestAcked ∨ stage = .serving) ∧ ∃ sequence body, inbound = .action sequence .status body) ∨
    ∀ t : Turn, t.session.stage = stage → onInbound env inbound t = refuse inbound t := by
  cases inbound with
  | ack action body =>
    by_cases hversion : stage = .handshakeConnected ∧ action = .versionNegotiation
    · obtain ⟨hs, rfl⟩ := hversion
      exact .inl ⟨hs, body, rfl⟩
    by_cases hrequest : stage = .requestSent ∧ action = .sendRequest
    · obtain ⟨hs, rfl⟩ := hrequest
      exact .inr (.inl ⟨hs, body, rfl⟩)
    refine .inr (.inr (.inr ?_))
    intro t hs
    simp only [onInbound, Steps.bind_apply, session_apply, hs]
    cases action <;> cases stage <;> first | rfl | simp at hversion hrequest
  | action sequence action body =>
    by_cases hstatus : (stage = .requestAcked ∨ stage = .serving) ∧ action = .status
    · obtain ⟨hs, rfl⟩ := hstatus
      exact .inr (.inr (.inl ⟨hs, sequence, body, rfl⟩))
    refine .inr (.inr (.inr ?_))
    intro t hs
    simp only [onInbound, Steps.bind_apply, session_apply, hs]
    cases action <;> cases stage <;> first | rfl | simp at hstatus

end Dispatch

/-! ### Senders follow the rules -/

section Rules

variable {env : Surroundings} {s : Sender} {table : TaskTable}

/-- The turn that ends with a result. -/
def conclude (env : Surroundings) : EStateM.Result Failure Turn Unit → Turn
  | .ok _ t => t
  | .error e t => fail env e t

/-- A sender that has ended does nothing. -/
lemma handle_of_isTerminal (hs : s.stage.isTerminal = true) (event : Event) :
    handle env event s table = { session := s, table } := by
  unfold handle
  rw [if_pos hs]

/-- A sender that has not ended does what the step says. -/
lemma handle_eq (hs : s.stage.isTerminal = false) {event : Event} (he : event ≠ .abort) :
    handle env event s table = conclude env (step env event { session := s, table }) := by
  have hresult : ∀ r : EStateM.Result Failure Turn Unit,
      (match r with
        | .ok _ t => t
        | .error e t => fail env e t) = conclude env r := by
    intro r
    cases r <;> rfl
  unfold handle
  rw [if_neg (by simp [hs])]
  cases event with
  | abort => exact absurd rfl he
  | _ => exact hresult _

/-- A fault follows the rules at any event. -/
lemma answers_failed {event : Event} {e : Failure} (he : IsFault e) :
    Answers env s table event (conclude env (.error e { session := s, table })) :=
  Answers.failed s.channel false he

/-- Beginning follows the rules. -/
lemma answers_begin (hs : s.stage = .idle) (task : SharedTask) (network : NetworkInfo) :
    Answers env s table (.begin task network)
      (conclude env (begin env task network { session := s, table })) := by
  rw [begin]
  cases hport : network.servicePort? with
  | none => exact answers_failed ⟨nofun, nofun, nofun⟩
  | some port =>
    cases hsize : task.totalSize? with
    | none => exact .crashed hs hport hsize
    | some totalSize =>
      simp only [Steps.bind_apply, session_apply, onTable_apply]
      cases hregister : table.register task env.now with
      | error e => exact answers_failed (isFault_task e)
      | ok table' => exact .began hs hport hsize hregister

/-- The credentials for a receiver cost nothing but random bytes. -/
lemma credentialsFor_result (env : Surroundings) (info : DeviceInfo) (network : NetworkInfo) (t : Turn) :
    (∃ written used, credentialsFor env info network t = .ok written { t with usedRandom := used }) ∨
      (∃ e used, IsFault e ∧
        credentialsFor env info network t = .error e { t with usedRandom := used }) := by
  simp only [credentialsFor, Steps.bind_apply, session_apply]
  cases hkey : (if t.session.settings.encryption then info.key else none) with
  | none => exact .inl ⟨_, t.usedRandom, rfl⟩
  | some peerKey =>
    simp only [Steps.bind_apply, useRandom_apply, credential_apply]
    cases hderive : CredentialKey.derive env.suite ⟨env.random⟩ peerKey with
    | error e => exact .inr ⟨.credential e, true, ⟨nofun, nofun, nofun⟩, rfl⟩
    | ok cipher => exact .inl ⟨_, true, rfl⟩

/-- Taking what the peer says about itself follows the rules. -/
lemma answers_onDeviceInfo (hs : s.stage = .advertising) (hpeer : s.peer = none) (bytes : Bytes) :
    Answers env s table (.deviceInfoRead bytes)
      (conclude env (onDeviceInfo env bytes { session := s, table })) := by
  rw [onDeviceInfo]
  cases hdecode : DeviceInfo.decode bytes with
  | error e => exact answers_failed ⟨nofun, nofun, nofun⟩
  | ok info =>
    simp only [Steps.bind_apply, currentJob_apply]
    cases hjob : s.job with
    | none => exact answers_failed ⟨nofun, nofun, nofun⟩
    | some j =>
      simp only
      obtain ⟨written, used, hwritten⟩ | ⟨e, used, he, herror⟩ :=
        credentialsFor_result env info j.network { session := s, table }
      · simp only [hwritten]
        exact .described hs hpeer hdecode hjob hwritten
      · simp only [herror]
        exact .failed s.channel used he

/-- Going on when the credentials are written follows the rules. -/
lemma answers_onCredentialsWritten {info : DeviceInfo} (hs : s.stage = .advertising)
    (hpeer : s.peer = some info) :
    Answers env s table .credentialsWritten
      (conclude env (onCredentialsWritten { session := s, table })) := by
  simp only [onCredentialsWritten, Steps.bind_apply, currentJob_apply]
  cases hjob : s.job with
  | none => exact answers_failed ⟨nofun, nofun, nofun⟩
  | some j => exact .awaits hs hpeer hjob

/-- Taking a connection follows the rules. -/
lemma answers_onPeerConnected (hs : s.stage = .credentialsWritten) (port : UInt16) :
    Answers env s table (.peerConnected port)
      (conclude env (onPeerConnected port { session := s, table })) := by
  simp only [onPeerConnected, Steps.bind_apply, currentJob_apply]
  cases hjob : s.job with
  | none => exact answers_failed ⟨nofun, nofun, nofun⟩
  | some j =>
    simp only
    split_ifs with hport
    · subst hport
      exact .joined hs hjob
    · exact answers_failed ⟨nofun, nofun, nofun⟩

/-- The share in the encryption is taken into the channel, or the session fails. -/
lemma prepareCrypto_apply (t : Turn) :
    prepareCrypto env t =
      match share env t.session.settings with
      | .ok crypto =>
        .ok crypto
          { t with
            session := { t.session with channel := holding t.session.channel crypto }
            usedRandom := t.usedRandom || crypto.isSome }
      | .error e => .error (.crypto e) t := by
  simp only [prepareCrypto, Steps.bind_apply, session_apply, share]
  cases t.session.settings.encryption with
  | false => simp [holding]
  | true =>
    simp only [if_true]
    cases CryptoContext.create env.provider .sender env.random with
    | error e => rfl
    | ok c =>
      simp only [Except.map, holding, Option.isSome_some, Bool.or_true]
      rfl

/-- Taking the opening of the channel follows the rules. -/
lemma answers_onChannelOpened (hs : s.stage = .networkJoinObserved) :
    Answers env s table .channelOpened (conclude env (onChannelOpened env { session := s, table })) := by
  simp only [onChannelOpened, Steps.bind_apply, enter_apply, session_apply, prepareCrypto_apply, staged_atStage]
  cases hshare : share env s.settings with
  | error e =>
    exact .failed s.channel false (isFault_crypto e)
  | ok crypto =>
    simp only [onChannel_apply, staged_channel, staged_withChannel]
    cases hsend : Channel.sendAction env.provider .versionNegotiation
        (some (Json.Record.toJson (offer s.settings crypto))) (holding s.channel crypto) with
    | error e channel =>
      rw [offer] at hsend
      simp only [hsend]
      exact .failed channel crypto.isSome (isFault_sendAction hsend)
    | ok bytes channel =>
      have hturn : Answers env s table .channelOpened _ := .offered hs hshare hsend
      rw [offer] at hsend
      simp only [hsend]
      exact hturn

/-- An answer that cannot be read fails the turn. -/
lemma onVersionAck_unread {body : Option Json} {e : Failure} (t : Turn)
    (hread : Channel.readBody (α := VersionOffer) .versionNegotiation body = .error e) :
    onVersionAck env body t = .error e t := by
  simp only [onVersionAck, Steps.bind_apply, reading_apply, hread]

/-- A version outside of one of the ranges fails the turn. -/
lemma onVersionAck_outside {body : Option Json} {ack : VersionOffer} (t : Turn)
    (hread : Channel.readBody .versionNegotiation body = .ok ack)
    (hversion : ¬(ack.version ∈ t.session.settings.versions ∧ ack.version ∈ ack.range)) :
    onVersionAck env body t = .error (.versionChoice ack.version ack.range t.session.settings.versions) t := by
  simp only [onVersionAck, Steps.bind_apply, reading_apply, session_apply, hread]
  rw [if_neg hversion]
  rfl

/-- Agreeing on a key, or not, is a matter of the channel. -/
lemma onVersionAck_eq {body : Option Json} {ack : VersionOffer} (t : Turn)
    (hread : Channel.readBody .versionNegotiation body = .ok ack)
    (hhere : ack.version ∈ t.session.settings.versions) (hthere : ack.version ∈ ack.range) :
    onVersionAck env body t =
      (do
        onChannel (settle env.provider t.session.settings ack)
        update fun s => s.agreed ack
        emit (.negotiated (min t.session.settings.maxVersion ack.version)
          (EncryptionMode.negotiate t.session.settings.encryption ack.publicValue?.isSome))
        let j ← currentJob
        let bytes ← onChannel (Channel.sendAction env.provider .sendRequest (some (Json.Record.toJson j.request)))
        enter .requestSent
        emit (.send bytes) : Act Unit) t := by
  simp only [onVersionAck, Steps.bind_apply, reading_apply, session_apply, hread]
  rw [if_pos ⟨hhere, hthere⟩]
  simp only [settle]
  cases hvalue : (if t.session.settings.encryption then ack.publicValue? else none) with
  | none => rfl
  | some value =>
    simp only [Steps.bind_apply, onChannel_apply, staged_channel, staged_withChannel]
    cases Channel.derive env.provider value t.session.channel <;> rfl

/-- Taking the answer to the offer follows the rules. -/
lemma answers_onVersionAck {bytes : Bytes} {body : Option Json} {ch₁ : Channel}
    (hs : s.stage = .handshakeConnected)
    (hreceive : Channel.receive env.provider bytes s.channel = .ok (.ack .versionNegotiation body) ch₁) :
    Answers env s table (.frame bytes)
      (conclude env (onVersionAck env body { session := { s with channel := ch₁ }, table })) := by
  obtain ⟨settings, id, stage, channel, job, peer, version, encryption⟩ := s
  cases hread : Channel.readBody (α := VersionOffer) .versionNegotiation body with
  | error e =>
    rw [onVersionAck_unread _ hread]
    exact .failed ch₁ false (isFault_readBody hread)
  | ok ack =>
    by_cases hversion : ack.version ∈ settings.versions ∧ ack.version ∈ ack.range
    · obtain ⟨hhere, hthere⟩ := hversion
      rw [onVersionAck_eq _ hread hhere hthere]
      simp only [Steps.bind_apply, onChannel_apply, staged_channel, staged_withChannel]
      cases hsettle : settle env.provider settings ack ch₁ with
      | error e ch₂ => exact .failed ch₂ false (isFault_settle hsettle)
      | ok u ch₂ =>
        simp only [update_apply, emit_apply, currentJob_apply]
        cases job with
        | none =>
          exact .unannounced ch₂ (e := .noTask) hs hreceive hread hhere hthere hsettle
            ⟨nofun, nofun, nofun⟩
        | some j =>
          simp only [agreed]
          cases hsend : Channel.sendAction env.provider .sendRequest (some (Json.Record.toJson j.request)) ch₂ with
          | error e ch₃ =>
            exact .unannounced ch₃ hs hreceive hread hhere hthere hsettle (isFault_sendAction hsend)
          | ok request ch₃ => exact .announced hs hreceive hread hhere hthere hsettle rfl hsend
    · rw [onVersionAck_outside _ hread hversion]
      exact .failed ch₁ false ⟨nofun, nofun, nofun⟩

/-- Taking the acknowledgement of the announcement follows the rules. -/
lemma answers_onRequestAck {bytes : Bytes} {body : Option Json} {channel : Channel}
    (hs : s.stage = .requestSent)
    (hreceive : Channel.receive env.provider bytes s.channel = .ok (.ack .sendRequest body) channel) :
    Answers env s table (.frame bytes)
      (conclude env (onRequestAck { session := { s with channel }, table })) := by
  obtain ⟨settings, id, stage, channel₀, job, peer, version, encryption⟩ := s
  simp only [onRequestAck, Steps.bind_apply, currentJob_apply]
  cases job with
  | none => exact .failed channel false (e := .noTask) ⟨nofun, nofun, nofun⟩
  | some j =>
    simp only [onTable_apply]
    cases hrequest : table.request j.taskId with
    | error e => exact .failed channel false (isFault_task e)
    | ok table' => exact .authorized hs hreceive rfl hrequest

/-- A report of the own task is acknowledged, and then its outcome decides. -/
lemma onStatus_eq {sequence : UInt32} {body : Option Json} {report : StatusReport} {j : Job} {ack : Bytes}
    {channel : Channel} {t : Turn} (hread : Channel.readBody .status body = .ok report) (hjob : t.session.job = some j)
    (htask : report.task?.filter (· ≠ j.taskId) = none)
    (hack : Channel.sendAck env.provider sequence .status none t.session.channel = .ok ack channel) :
    onStatus env sequence body t =
      let t' : Turn := { t with session := { t.session with channel }, intents := t.intents ++ [.send ack] }
      match report.outcome with
      | .error => .error (.reportedError report.reason) t'
      | .refused => .error (.reportedRefusal report.reason) t'
      | .ok =>
        match t.table.finish j.taskId .completed env.now with
        | .error e => .error (.task e) t'
        | .ok table =>
          .ok ()
            { t' with
              session := { t.session with stage := .completed, channel := channel.discardCrypto }
              table
              intents := t.intents ++ [.send ack, .finished (.ok j.taskId)] } := by
  obtain ⟨⟨settings, id, stage, channel₀, job, peer, version, encryption⟩, table, intents, used, crashed⟩ := t
  obtain rfl : job = some j := hjob
  simp only [onStatus, Steps.bind_apply, reading_apply, hread, currentJob_apply, htask, onChannel_apply,
    staged_channel, staged_withChannel, hack, emit_apply]
  cases report.outcome with
  | error => rfl
  | refused => rfl
  | ok =>
    simp only [Steps.bind_apply, onTable_apply]
    cases table.finish j.taskId .completed env.now with
    | error e => rfl
    | ok table' => simp [update_apply, enter_apply]

/-- What is no report of the own task, or cannot be acknowledged, is a fault. -/
lemma onStatus_fault_or_report (env : Surroundings) (sequence : UInt32) (body : Option Json) (t : Turn) :
    (∃ e channel, IsFault e ∧
      onStatus env sequence body t = .error e { t with session := { t.session with channel } }) ∨
    ∃ report j ack channel, Channel.readBody (α := StatusReport) .status body = .ok report ∧ t.session.job = some j ∧
      report.task?.filter (· ≠ j.taskId) = none ∧
      Channel.sendAck env.provider sequence .status none t.session.channel = .ok ack channel := by
  obtain ⟨⟨settings, id, stage, channel, job, peer, version, encryption⟩, table, intents, used, crashed⟩ := t
  simp only [onStatus, Steps.bind_apply, reading_apply, currentJob_apply]
  cases hread : Channel.readBody (α := StatusReport) .status body with
  | error e => exact .inl ⟨e, channel, isFault_readBody hread, rfl⟩
  | ok report =>
    simp only
    cases job with
    | none => exact .inl ⟨.noTask, channel, ⟨nofun, nofun, nofun⟩, rfl⟩
    | some j =>
      simp only
      cases htask : report.task?.filter (· ≠ j.taskId) with
      | some other => exact .inl ⟨.otherTask other j.taskId, channel, ⟨nofun, nofun, nofun⟩, rfl⟩
      | none =>
        simp only [Steps.bind_apply, onChannel_apply, staged_channel, staged_withChannel]
        cases hack : Channel.sendAck env.provider sequence .status none channel with
        | error e channel' => exact .inl ⟨e, channel', isFault_sendAck hack, rfl⟩
        | ok ack channel' => exact .inr ⟨report, j, ack, channel', rfl, rfl, htask, rfl⟩

/-- Taking a report follows the rules. -/
lemma answers_onStatus {bytes : Bytes} {sequence : UInt32} {body : Option Json} {ch₁ : Channel}
    (hs : s.stage = .requestAcked ∨ s.stage = .serving)
    (hreceive : Channel.receive env.provider bytes s.channel = .ok (.action sequence .status body) ch₁) :
    Answers env s table (.frame bytes)
      (conclude env (onStatus env sequence body { session := { s with channel := ch₁ }, table })) := by
  obtain ⟨e, channel, he, hstatus⟩ | ⟨report, j, ack, channel, hread, hjob, htask, hack⟩ :=
    onStatus_fault_or_report env sequence body { session := { s with channel := ch₁ }, table }
  · rw [hstatus]
    exact .failed channel false he
  · rw [onStatus_eq hread hjob htask hack]
    cases houtcome : report.outcome with
    | error => exact .reported hs hreceive hread hjob htask hack (.inl (by simp [reportFailure?, houtcome]))
    | refused => exact .reported hs hreceive hread hjob htask hack (.inl (by simp [reportFailure?, houtcome]))
    | ok =>
      cases hfinish : table.finish j.taskId .completed env.now with
      | error e => exact .reported hs hreceive hread hjob htask hack (.inr ⟨houtcome, e, hfinish, rfl⟩)
      | ok table' => exact .completed hs hreceive hread hjob htask hack houtcome hfinish

/-- Taking a frame follows the rules. -/
lemma answers_onInbound (env : Surroundings) (table : TaskTable) (bytes : Bytes) :
    Answers env s table (.frame bytes)
      (conclude env ((do onInbound env (← onChannel (Channel.receive env.provider bytes)))
        { session := s, table })) := by
  simp only [Steps.bind_apply, onChannel_apply, staged_channel, staged_withChannel]
  cases hreceive : Channel.receive env.provider bytes s.channel with
  | error e channel => exact .failed channel false (isFault_receive hreceive)
  | ok inbound channel =>
    obtain ⟨hs, body, rfl⟩ | ⟨hs, body, rfl⟩ | ⟨hs, sequence, body, rfl⟩ | hrefused :=
      onInbound_cases env s.stage inbound
    · have hversion : onInbound env (.ack .versionNegotiation body) { session := { s with channel }, table } = _ :=
        onInbound_versionAck hs body
      simp only [hversion]
      exact answers_onVersionAck hs hreceive
    · have hrequest : onInbound env (.ack .sendRequest body) { session := { s with channel }, table } = _ :=
        onInbound_requestAck hs body
      simp only [hrequest]
      exact answers_onRequestAck hs hreceive
    · have hstatus : onInbound env (.action sequence .status body) { session := { s with channel }, table } = _ :=
        onInbound_status hs sequence body
      simp only [hstatus]
      exact answers_onStatus hs hreceive
    · simp only [hrefused { session := { s with channel }, table } rfl]
      exact .failed channel false (isFault_unexpected _ _)

/-- A step that does not end the session at once is within the rules. -/
lemma answers_step {event : Event} (he : event ≠ .abort) :
    Answers env s table event (conclude env (step env event { session := s, table })) := by
  have hrefused : ∀ e, IsFault e → Answers env s table event
      (conclude env (.error e { session := s, table })) := fun e => answers_failed
  have hframe := answers_onInbound env table (s := s)
  obtain ⟨settings, id, stage, channel, job, peer, version, encryption⟩ := s
  cases event with
  | begin task network =>
    cases stage with
    | idle => exact answers_begin rfl task network
    | _ => exact hrefused _ ⟨nofun, nofun, nofun⟩
  | deviceInfoRead bytes =>
    cases stage with
    | advertising =>
      cases peer with
      | none => exact answers_onDeviceInfo rfl rfl bytes
      | some info => exact hrefused _ ⟨nofun, nofun, nofun⟩
    | _ => exact hrefused _ ⟨nofun, nofun, nofun⟩
  | credentialsWritten =>
    cases stage with
    | advertising =>
      cases peer with
      | none => exact hrefused _ ⟨nofun, nofun, nofun⟩
      | some info => exact answers_onCredentialsWritten rfl rfl
    | _ => exact hrefused _ ⟨nofun, nofun, nofun⟩
  | peerConnected port =>
    cases stage with
    | credentialsWritten => exact answers_onPeerConnected rfl port
    | _ => exact hrefused _ ⟨nofun, nofun, nofun⟩
  | channelOpened =>
    cases stage with
    | networkJoinObserved => exact answers_onChannelOpened rfl
    | _ => exact hrefused _ ⟨nofun, nofun, nofun⟩
  | serveStarted =>
    cases stage with
    | requestAcked => exact .serves rfl
    | _ => exact hrefused _ ⟨nofun, nofun, nofun⟩
  | frame bytes => cases stage <;> exact hframe bytes
  | abort => exact absurd rfl he
  | deviceInfoUnavailable reason => cases stage <;> exact hrefused _ ⟨nofun, nofun, nofun⟩
  | credentialWriteFailed reason => cases stage <;> exact hrefused _ ⟨nofun, nofun, nofun⟩
  | timedOut => cases stage <;> exact hrefused _ ⟨nofun, nofun, nofun⟩
  | channelClosed => cases stage <;> exact hrefused _ ⟨nofun, nofun, nofun⟩

/-- A sender that has not ended follows the rules. -/
theorem handle_answers (env : Surroundings) (table : TaskTable) (hs : s.stage.isTerminal = false) (event : Event) :
    Answers env s table event (handle env event s table) := by
  by_cases habort : event = .abort
  · subst habort
    rw [handle, if_neg (by simp [hs])]
    exact .gaveUp
  · rw [handle_eq hs habort]
    exact answers_step habort

end Rules

/-! ### What the rules make a sender do -/

section Turns

variable {env : Surroundings} {s : Sender} {table : TaskTable}

/-- What a sender does with a frame depends on what its channel receives. -/
lemma handle_frame (hs : s.stage.isTerminal = false) {bytes : Bytes} {inbound : Inbound} {channel : Channel}
    (hreceive : Channel.receive env.provider bytes s.channel = .ok inbound channel) :
    handle env (.frame bytes) s table =
      conclude env (onInbound env inbound { session := { s with channel }, table }) := by
  rw [handle_eq hs (show Event.frame bytes ≠ .abort from nofun)]
  simp only [step_frame, Steps.bind_apply, onChannel_apply, staged_channel, staged_withChannel, hreceive]

/-- A sender that has announced its task looks at every report. -/
lemma handle_status {bytes : Bytes} {sequence : UInt32} {body : Option Json} {channel : Channel}
    (hs : s.stage = .requestAcked ∨ s.stage = .serving)
    (hreceive : Channel.receive env.provider bytes s.channel = .ok (.action sequence .status body) channel) :
    handle env (.frame bytes) s table =
      conclude env (onStatus env sequence body { session := { s with channel }, table }) := by
  have hopen : s.stage.isTerminal = false := by obtain hs | hs := hs <;> rw [hs] <;> rfl
  rw [handle_frame hopen hreceive, onInbound_status hs]

/-- A sender does what a rule says, unless that is to fail. -/
theorem handle_of_answers {event : Event} {t : Turn} (h : Answers env s table event t)
    (ht : ∀ e, t.session.stage ≠ .failed e) : handle env event s table = t := by
  have hstart : s.stage.isTerminal = false → event ≠ .abort →
      step env event { session := s, table } = .ok () t → handle env event s table = t := by
    intro hs he hstep
    rw [handle_eq hs he, hstep]
    rfl
  obtain ⟨settings, id, stage, channel, job, peer, version, encryption⟩ := s
  cases h with
  | began hs hport hsize hregister =>
    cases hs
    refine hstart rfl nofun ?_
    rw [step_begin rfl, begin]
    simp [hport, hsize, onTable_apply, hregister]
  | crashed hs hport hsize =>
    cases hs
    refine hstart rfl nofun ?_
    rw [step_begin rfl, begin]
    simp [hport, hsize]
  | described hs hpeer hdecode hjob hwritten =>
    cases hs
    cases hpeer
    cases hjob
    refine hstart rfl nofun ?_
    rw [step_deviceInfoRead rfl rfl, onDeviceInfo]
    simp [hdecode, hwritten]
  | awaits hs hpeer hjob =>
    cases hs
    cases hpeer
    cases hjob
    refine hstart rfl nofun ?_
    rw [step_credentialsWritten rfl rfl]
    simp [onCredentialsWritten]
  | joined hs hjob =>
    cases hs
    cases hjob
    refine hstart rfl nofun ?_
    rw [step_peerConnected rfl]
    simp [onPeerConnected]
  | offered hs hshare hsend =>
    cases hs
    refine hstart rfl nofun ?_
    rw [step_channelOpened rfl]
    rw [offer] at hsend
    simp only [onChannelOpened, Steps.bind_apply, enter_apply, staged_atStage, session_apply, prepareCrypto_apply,
      hshare, onChannel_apply, staged_channel, staged_withChannel, hsend, emit_apply]
    rfl
  | announced hs hreceive hread hhere hthere hsettle hjob hsend =>
    cases hs
    cases hjob
    rw [handle_frame rfl hreceive, onInbound_versionAck rfl, onVersionAck_eq _ hread hhere hthere]
    simp [onChannel_apply, hsettle, hsend, agreed, conclude]
  | authorized hs hreceive hjob hrequest =>
    cases hs
    cases hjob
    rw [handle_frame rfl hreceive, onInbound_requestAck rfl]
    simp [onRequestAck, onTable_apply, hrequest, conclude]
  | serves hs =>
    cases hs
    exact hstart rfl nofun rfl
  | completed hs hreceive hread hjob htask hack houtcome hfinish =>
    rw [handle_status hs hreceive, onStatus_eq hread hjob htask hack]
    simp only [houtcome, hfinish]
    rfl
  | unannounced => exact absurd rfl (ht _)
  | reported => exact absurd rfl (ht _)
  | failed => exact absurd rfl (ht _)
  | gaveUp => exact absurd rfl (ht _)

/-- A sender fails when the receiver has chosen a version outside a range. -/
lemma handle_versionChoice (table : TaskTable) {bytes : Bytes} {body : Option Json} {ack : VersionOffer}
    {channel : Channel} (hs : s.stage = .handshakeConnected)
    (hreceive : Channel.receive env.provider bytes s.channel = .ok (.ack .versionNegotiation body) channel)
    (hread : Channel.readBody .versionNegotiation body = .ok ack)
    (hversion : ¬(ack.version ∈ s.settings.versions ∧ ack.version ∈ ack.range)) :
    handle env (.frame bytes) s table =
      fail env (.versionChoice ack.version ack.range s.settings.versions)
        { session := { s with channel }, table } := by
  rw [handle_frame (by rw [hs]; rfl) hreceive, onInbound_versionAck hs, onVersionAck_outside _ hread hversion]
  rfl

/-- A sender fails when the receiver reports that it has failed. -/
lemma handle_reportFailure {bytes ack : Bytes} {sequence : UInt32} {body : Option Json}
    {report : StatusReport} {j : Job} {ch₁ ch₂ : Channel} {e : Failure}
    (hs : s.stage = .requestAcked ∨ s.stage = .serving)
    (hreceive : Channel.receive env.provider bytes s.channel = .ok (.action sequence .status body) ch₁)
    (hread : Channel.readBody .status body = .ok report) (hjob : s.job = some j)
    (htask : report.task?.filter (· ≠ j.taskId) = none)
    (hack : Channel.sendAck env.provider sequence .status none ch₁ = .ok ack ch₂)
    (hfailure : reportFailure? report = some e) :
    handle env (.frame bytes) s table =
      fail env e { session := { s with channel := ch₂ }, table, intents := [.send ack] } := by
  rw [handle_status hs hreceive, onStatus_eq hread hjob htask hack]
  cases houtcome : report.outcome with
  | ok => simp [reportFailure?, houtcome] at hfailure
  | error =>
    simp only [reportFailure?, houtcome, Option.some.injEq] at hfailure
    subst hfailure
    rfl
  | refused =>
    simp only [reportFailure?, houtcome, Option.some.injEq] at hfailure
    subst hfailure
    rfl

/-- A sender fails when success is reported of a task that the table refuses to finish. -/
lemma handle_unfinished {bytes ack : Bytes} {sequence : UInt32} {body : Option Json}
    {report : StatusReport} {j : Job} {ch₁ ch₂ : Channel} {e : TaskError}
    (hs : s.stage = .requestAcked ∨ s.stage = .serving)
    (hreceive : Channel.receive env.provider bytes s.channel = .ok (.action sequence .status body) ch₁)
    (hread : Channel.readBody .status body = .ok report) (hjob : s.job = some j)
    (htask : report.task?.filter (· ≠ j.taskId) = none)
    (hack : Channel.sendAck env.provider sequence .status none ch₁ = .ok ack ch₂)
    (houtcome : report.outcome = .ok) (hfinish : table.finish j.taskId .completed env.now = .error e) :
    handle env (.frame bytes) s table =
      fail env (.task e) { session := { s with channel := ch₂ }, table, intents := [.send ack] } := by
  rw [handle_status hs hreceive, onStatus_eq hread hjob htask hack]
  simp only [houtcome, hfinish]
  rfl

end Turns

end DirectShare.Sender
