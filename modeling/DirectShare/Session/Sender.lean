import DirectShare.Session.Surroundings
import DirectShare.Session.Turn
import DirectShare.Settings.Basic
import DirectShare.Task.Announcement
import DirectShare.Wire.DeviceInfo

/-!
# Sender sessions

A sender registers its task, reads the device description of the receiver and writes the credentials
of its network. When the receiver has come into the network and opened a channel, the two agree on a
version, the sender announces the task, and the receiver downloads it and reports how that ended.

A session only decides: it is given events, and answers each with intents for its caller, in the
order in which they are to be carried out.

`Sender.handle` is what a session makes of a `Sender.Event`: another session, the table of tasks as
it leaves it, and a list of `Sender.Intent`.
-/

namespace DirectShare

/-- What can happen to a sender. -/
inductive Sender.Event where
  /-- A task is to be sent, through a network that is open already. -/
  | begin (task : SharedTask) (network : NetworkInfo)
  /-- The device description of the receiver was read. -/
  | deviceInfoRead (bytes : Bytes)
  /-- The device description could not be read. -/
  | deviceInfoUnavailable (reason : String)
  /-- The credentials were written. -/
  | credentialsWritten
  /-- The credentials could not be written. -/
  | credentialWriteFailed (reason : String)
  /-- The receiver has come to a port of the sender. -/
  | peerConnected (port : UInt16)
  /-- The channel is open. -/
  | channelOpened
  /-- A frame has arrived. -/
  | frame (bytes : Bytes)
  /-- The download service has begun to send the files. -/
  | serveStarted
  /-- Nothing came in time. -/
  | timedOut
  /-- The channel was closed. -/
  | channelClosed
  /-- The caller gives up. -/
  | abort
deriving DecidableEq, Repr

/-- What a sender wants its caller to do or to know. -/
inductive Sender.Intent where
  /-- To read the device description of the receiver. -/
  | readDeviceInfo
  /-- To write the credentials of the network. -/
  | writeCredentials (bytes : Bytes)
  /-- To wait for the receiver at a port. -/
  | awaitPeer (port : UInt16)
  /-- To send a frame. -/
  | send (bytes : Bytes)
  /-- What was agreed on. -/
  | negotiated (version : UInt32) (encryption : EncryptionMode)
  /-- That the task may be downloaded. -/
  | serveAuthorized (taskId : String)
  /-- That the session has ended. -/
  | finished (result : Except Failure String)

/-- How far a sender has come. -/
inductive Sender.Stage where
  /-- Nothing has happened. -/
  | idle
  /-- The task is registered. -/
  | advertising
  /-- The receiver has the credentials. -/
  | credentialsWritten
  /-- The receiver is in the network. -/
  | networkJoinObserved
  /-- The version negotiation is sent. -/
  | handshakeConnected
  /-- The task is announced. -/
  | requestSent
  /-- The receiver has acknowledged the announcement. -/
  | requestAcked
  /-- The download has begun. -/
  | serving
  /-- The receiver has all of the task. -/
  | completed
  /-- The session has failed. -/
  | failed (failure : Failure)
deriving DecidableEq, Repr

/-- What a sender works on. -/
structure Sender.Job where
  /-- The name of the task. -/
  taskId : String
  /-- The announcement of the task. -/
  request : SendRequest
  network : NetworkInfo
  /-- The port of the service in the network. -/
  port : UInt16
deriving DecidableEq, Repr

/-- A sender session. -/
structure Sender where
  /-- The settings of the device. -/
  settings : Settings
  /-- The name of the session. -/
  id : String
  /-- How far the session has come. -/
  stage : Sender.Stage := .idle
  /-- The channel to the receiver. -/
  channel : Channel := .start .sender
  /-- What the session works on, from the first event on. -/
  job : Option Sender.Job := none
  /-- The device description of the receiver, from the writing of the credentials on. -/
  peer : Option DeviceInfo := none
  /-- The version that was agreed on. -/
  version : Option UInt32 := none
  /-- Whether the session is encrypted. -/
  encryption : EncryptionMode := .disabled
deriving DecidableEq, Repr

namespace Sender

/-- Whether the session has ended. -/
def Stage.isTerminal : Stage → Bool
  | .completed | .failed _ => true
  | _ => false

instance : Inspect Event where
  inspect
    | .begin task network => Inspect.record "Begin" [("task", inspect task), ("network", inspect network)]
    | .deviceInfoRead bytes => Inspect.variant "DeviceInfoRead" (inspect bytes)
    | .deviceInfoUnavailable reason => Inspect.variant "DeviceInfoUnavailable" (inspect reason)
    | .credentialsWritten => "CredentialsWritten"
    | .credentialWriteFailed reason => Inspect.variant "CredentialWriteFailed" (inspect reason)
    | .peerConnected port => Inspect.record "PeerConnected" [("port", inspect port)]
    | .channelOpened => "ChannelOpened"
    | .frame bytes => Inspect.variant "Frame" (inspect bytes)
    | .serveStarted => "ServeStarted"
    | .timedOut => "TimedOut"
    | .channelClosed => "ChannelClosed"
    | .abort => "Abort"

instance : Inspect Stage where
  inspect
    | .idle => "Idle"
    | .advertising => "Advertising"
    | .credentialsWritten => "CredentialsWritten"
    | .networkJoinObserved => "NetworkJoinObserved"
    | .handshakeConnected => "HandshakeConnected"
    | .requestSent => "RequestSent"
    | .requestAcked => "RequestAcked"
    | .serving => "Serving"
    | .completed => "Completed"
    | .failed _ => "Failed"

instance : Staged Sender Stage where
  stage := stage
  atStage stage s := { s with stage }
  channel := channel
  withChannel channel s := { s with channel }

/-- What a sender makes of one event. -/
abbrev Turn := DirectShare.Turn Sender TaskTable Intent

/-- Steps of a sender's turn. -/
abbrev Act := DirectShare.Act Sender TaskTable Intent

open Act

/-- What the session works on. -/
def currentJob : Act Job := do
  match (← session).job with
  | none => throw .noTask
  | some j => return j

/-- Changes the table of tasks, which may refuse that. -/
def onTable (change : TaskTable → Except TaskError TaskTable) : Act Unit := do
  let t ← get
  match change t.table with
  | .error e => throw (.task e)
  | .ok table => set { t with table }

/-- Registers the task, and crashes if the sizes of its files do not add up in 64 bits. -/
def begin (env : Surroundings) (task : SharedTask) (network : NetworkInfo) : Act Unit := do
  match network.servicePort? with
  | none => throw (.servicePort network.port)
  | some port =>
    match task.totalSize? with
    | none => crash
    | some totalSize =>
      let s ← session
      onTable fun table => table.register task env.now
      let request := task.announce totalSize s.id s.settings.deviceName
      update fun s => { s with job := some { taskId := task.id, request, network, port } }
      enter .advertising
      emit .readDeviceInfo

/-- The description of the network for a receiver, sealed for its key if encryption is wanted. -/
def credentialsFor (env : Surroundings) (info : DeviceInfo) (network : NetworkInfo) : Act NetworkInfo := do
  let s ← session
  match (if s.settings.encryption then info.key else none) with
  | none => return { network with id := some s.id }
  | some peerKey =>
    useRandom
    let key : CredentialKey := ⟨env.random⟩
    let cipher ← credential (key.derive env.suite peerKey)
    return cipher.sealNetwork network s.id (key.publicText env.suite)

/-- Writes the credentials for a receiver that has described itself. -/
def onDeviceInfo (env : Surroundings) (bytes : Bytes) : Act Unit := do
  match DeviceInfo.decode bytes with
  | .error e => throw (.description e)
  | .ok info =>
    let j ← currentJob
    let written ← credentialsFor env info j.network
    update fun s => { s with peer := some info }
    emit (.writeCredentials (Json.Record.encode written))

/-- Waits for the receiver, which has the credentials. -/
def onCredentialsWritten : Act Unit := do
  let j ← currentJob
  enter .credentialsWritten
  emit (.awaitPeer j.port)

/-- Notes that the receiver has come, which must be to the port of the service. -/
def onPeerConnected (port : UInt16) : Act Unit := do
  let j ← currentJob
  if port = j.port then enter .networkJoinObserved else throw (.otherPort port j.port)

/-- The share in the encryption, if encryption is wanted. -/
def prepareCrypto (env : Surroundings) : Act (Option CryptoContext) := do
  if (← session).settings.encryption then
    match CryptoContext.create env.provider .sender env.random with
    | .error e => throw (.crypto e)
    | .ok c =>
      useRandom
      update fun s => { s with channel := { s.channel with crypto := some c } }
      return some c
  else return none

/-- Sends the version negotiation. -/
def onChannelOpened (env : Surroundings) : Act Unit := do
  enter .handshakeConnected
  let s ← session
  let crypto ← prepareCrypto env
  let offer : VersionOffer :=
    { VersionOffer.ofRange s.settings.maxVersion s.settings.versions with
      supportsEncryption := crypto.isSome
      ephemeralPublicValue := crypto.bind (·.publicText?) }
  let bytes ← onChannel (Channel.sendAction env.provider .versionNegotiation (some (Json.Record.toJson offer)))
  emit (.send bytes)

/-- Takes the choice of the receiver, and announces the task. -/
def onVersionAck (env : Surroundings) (body : Option Json) : Act Unit := do
  let ack : VersionOffer ← reading (Channel.readBody .versionNegotiation body)
  let s ← session
  if ack.version ∈ s.settings.versions ∧ ack.version ∈ ack.range then
    let version := min s.settings.maxVersion ack.version
    let encryption := EncryptionMode.negotiate s.settings.encryption ack.publicValue?.isSome
    match (if s.settings.encryption then ack.publicValue? else none) with
    | some value => onChannel (Channel.derive env.provider value)
    | none => update fun s => { s with channel := s.channel.discardCrypto }
    update fun s => { s with version := some version, encryption }
    emit (.negotiated version encryption)
    let j ← currentJob
    let bytes ← onChannel (Channel.sendAction env.provider .sendRequest (some (Json.Record.toJson j.request)))
    enter .requestSent
    emit (.send bytes)
  else throw (.versionChoice ack.version ack.range s.settings.versions)

/-- Lets the task be downloaded. -/
def onRequestAck : Act Unit := do
  let j ← currentJob
  onTable fun table => table.request j.taskId
  enter .requestAcked
  emit (.serveAuthorized j.taskId)

/-- Takes the report of the receiver, which ends the session. -/
def onStatus (env : Surroundings) (sequence : UInt32) (body : Option Json) : Act Unit := do
  let report : StatusReport ← reading (Channel.readBody .status body)
  let j ← currentJob
  match report.task?.filter (· ≠ j.taskId) with
  | some reported => throw (.otherTask reported j.taskId)
  | none =>
    let bytes ← onChannel (Channel.sendAck env.provider sequence .status none)
    emit (.send bytes)
    match report.outcome with
    | .error => throw (.reportedError report.reason)
    | .refused => throw (.reportedRefusal report.reason)
    | .ok =>
      onTable fun table => table.finish j.taskId .completed env.now
      update fun s => { s with channel := s.channel.discardCrypto }
      enter .completed
      emit (.finished (.ok j.taskId))

/-- What the session makes of what its channel has received. -/
def onInbound (env : Surroundings) (inbound : Inbound) : Act Unit := do
  match (← session).stage, inbound with
  | .handshakeConnected, .ack .versionNegotiation body => onVersionAck env body
  | .requestSent, .ack .sendRequest _ => onRequestAck
  | .requestAcked, .action sequence .status body => onStatus env sequence body
  | .serving, .action sequence .status body => onStatus env sequence body
  | _, _ => refuse inbound

/-- What the session makes of an event that does not end it at once. -/
def step (env : Surroundings) (event : Event) : Act Unit := do
  let s ← session
  match s.stage, event with
  | .idle, .begin task network => begin env task network
  | .advertising, .deviceInfoRead bytes => if s.peer.isNone then onDeviceInfo env bytes else refuse event
  | .advertising, .deviceInfoUnavailable reason => throw (.described .credentialExchangeFailed reason)
  | .advertising, .credentialsWritten => if s.peer.isSome then onCredentialsWritten else refuse event
  | .advertising, .credentialWriteFailed reason => throw (.described .credentialExchangeFailed reason)
  | .credentialsWritten, .peerConnected port => onPeerConnected port
  | .networkJoinObserved, .channelOpened => onChannelOpened env
  | .requestAcked, .serveStarted => enter .serving
  | _, .frame bytes => onInbound env (← onChannel (Channel.receive env.provider bytes))
  | stage, .timedOut => throw (.timedOut (inspect stage))
  | stage, .channelClosed => throw (.channelClosed (inspect stage))
  | _, _ => refuse event

/-- The turn after a failure: the task has failed too, unless it has left the table. -/
def fail (env : Surroundings) (failure : Failure) (t : Turn) : Turn :=
  let table :=
    match t.session.job with
    | none => t.table
    | some j => (t.table.finish j.taskId .failed env.now).toOption.getD t.table
  { t with
    session := { t.session with channel := t.session.channel.discardCrypto, stage := .failed failure }
    table
    intents := t.intents ++ [.finished (.error failure)] }

/-- The turn after the caller gave up: the task leaves the table. -/
def giveUp (t : Turn) : Turn :=
  let table :=
    match t.session.job with
    | none => t.table
    | some j => t.table.remove j.taskId
  { t with
    session := { t.session with channel := t.session.channel.discardCrypto, stage := .failed .aborted }
    table
    intents := t.intents ++ [.finished (.error .aborted)] }

/-- What a session makes of an event. A session that has ended takes no notice of it. -/
def handle (env : Surroundings) (event : Event) (s : Sender) (table : TaskTable) : Turn :=
  if s.stage.isTerminal then { session := s, table }
  else
    match event with
    | .abort => giveUp { session := s, table }
    | _ =>
      match step env event { session := s, table } with
      | .ok _ t => t
      | .error failure t => fail env failure t

end Sender

end DirectShare
