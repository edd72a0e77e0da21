import DirectShare.Session.Surroundings
import DirectShare.Session.Turn
import DirectShare.Settings.Basic
import DirectShare.Wire.DeviceInfo
import DirectShare.Wire.SendRequest

/-!
# Receiver sessions

A receiver publishes its device description, takes the credentials that a sender writes, joins the
network and opens the channel. It answers the version negotiation and the announcement of the task,
asks its user if it is to, downloads the files, and reports how that ended.

`Receiver.handle` is what a session makes of a `Receiver.Event`: another session, and a list of
`Receiver.Intent` for its caller.
-/

namespace DirectShare

/-- What can happen to a receiver. -/
inductive Receiver.Event where
  /-- The receiver is to be found by senders. -/
  | publish
  /-- A sender has written credentials. -/
  | credentialsWritten (bytes : Bytes)
  /-- The network was joined, in which the sender has this address. -/
  | networkJoined (host : String)
  /-- The network could not be joined. -/
  | networkJoinFailed (reason : String)
  /-- The channel is open. -/
  | channelOpened
  /-- A frame has arrived. -/
  | frame (bytes : Bytes)
  /-- The user has decided about the task. -/
  | decision (accept : Bool)
  /-- The download has ended, with the names of the files or with the reason of its failure. -/
  | downloadFinished (result : Except String (List String))
  /-- Nothing came in time. -/
  | timedOut
  /-- The channel was closed. -/
  | channelClosed
  /-- The caller gives up. -/
  | abort

/-- What a receiver wants its caller to do or to know. -/
inductive Receiver.Intent where
  /-- To publish the device description. -/
  | publishDeviceInfo (bytes : Bytes)
  /-- To join a network. -/
  | joinNetwork (network : NetworkInfo)
  /-- To open the channel to a host and port. -/
  | openChannel (host : String) (port : UInt16)
  /-- To send a frame. -/
  | send (bytes : Bytes)
  /-- What was agreed on. -/
  | negotiated (version : UInt32) (encryption : EncryptionMode)
  /-- To ask the user about a task. -/
  | confirmRequest (request : SendRequest)
  /-- To download a task. -/
  | download (taskId : String)
  /-- To show the text of a task. -/
  | textReceived (taskId text : String)
  /-- That the session has ended. -/
  | finished (result : Except Failure String)

/-- How far a receiver has come. -/
inductive Receiver.Stage where
  /-- Nothing has happened. -/
  | idle
  /-- The device description is published. -/
  | advertised
  /-- The credentials have come, with the port of the sender's service. -/
  | credentialsReceived (port : UInt16)
  /-- The network is joined. -/
  | networkJoined
  /-- The channel is open. -/
  | handshakeConnected
  /-- The version is agreed on. -/
  | versionNegotiated
  /-- A task is announced. -/
  | requestReceived
  /-- The files are downloaded. -/
  | downloading
  /-- The sender knows that all of the task has come. -/
  | completed
  /-- The session has failed. -/
  | failed (failure : Failure)
deriving DecidableEq, Repr

/-- A receiver session. -/
structure Receiver where
  /-- The settings of the device. -/
  settings : Settings
  /-- How far the session has come. -/
  stage : Receiver.Stage := .idle
  /-- The channel to the sender. -/
  channel : Channel := .start .receiver
  /-- The private key for credentials, while one is published. -/
  credentialKey : Option CredentialKey := none
  /-- The announcement of the task. -/
  request : Option SendRequest := none
  /-- Whether the user is asked. -/
  awaitingDecision : Bool := false
  /-- The outcome in the report that waits for its acknowledgement. -/
  reported : Option Outcome := none
  /-- The version that was agreed on. -/
  version : Option UInt32 := none
  /-- Whether the session is encrypted. -/
  encryption : EncryptionMode := .disabled
deriving DecidableEq, Repr

namespace Receiver

/-- Whether the session has ended. -/
def Stage.isTerminal : Stage → Bool
  | .completed | .failed _ => true
  | _ => false

/-- The name of the task. -/
def task? (s : Receiver) : Option String := s.request.bind (·.task?)

instance : Inspect Event where
  inspect
    | .publish => "Publish"
    | .credentialsWritten bytes => Inspect.variant "CredentialsWritten" (inspect bytes)
    | .networkJoined host => Inspect.record "NetworkJoined" [("host", inspect host)]
    | .networkJoinFailed reason => Inspect.variant "NetworkJoinFailed" (inspect reason)
    | .channelOpened => "ChannelOpened"
    | .frame bytes => Inspect.variant "Frame" (inspect bytes)
    | .decision accept => Inspect.record "Decision" [("accept", inspect accept)]
    | .downloadFinished result => Inspect.variant "DownloadFinished" (inspect result)
    | .timedOut => "TimedOut"
    | .channelClosed => "ChannelClosed"
    | .abort => "Abort"

instance : Inspect Stage where
  inspect
    | .idle => "Idle"
    | .advertised => "Advertised"
    | .credentialsReceived _ => "CredentialsReceived"
    | .networkJoined => "NetworkJoined"
    | .handshakeConnected => "HandshakeConnected"
    | .versionNegotiated => "VersionNegotiated"
    | .requestReceived => "RequestReceived"
    | .downloading => "Downloading"
    | .completed => "Completed"
    | .failed _ => "Failed"

instance : Staged Receiver Stage where
  stage := stage
  atStage stage s := { s with stage }
  channel := channel
  withChannel channel s := { s with channel }

/-- What a receiver makes of one event. It has no table. -/
abbrev Turn := DirectShare.Turn Receiver Unit Intent

/-- Steps of a receiver's turn. -/
abbrev Act := DirectShare.Act Receiver Unit Intent

open Act

/-- The name of the task. -/
def currentTask : Act String := do
  match (← session).task? with
  | none => throw .noTask
  | some id => return id

/-- The device description of a receiver with the given settings and public key. -/
def deviceInfo (settings : Settings) (key : Option String) : DeviceInfo :=
  { key
    mac := settings.macAddress
    catShare := some settings.maxVersion
    name := some settings.deviceName
    brand := some settings.brand.id
    minVersion := some settings.minVersion
    capabilities :=
      (if key.isSome then Capability.encryption else 0)
        ||| (if settings.supports5GHz then Capability.wifi5GHz else 0) }

/-- Publishes the device description, with a key if encryption is wanted. -/
def publish (env : Surroundings) : Act Unit := do
  let s ← session
  let key ←
    if s.settings.encryption then do
      useRandom
      let key : CredentialKey := ⟨env.random⟩
      update fun s => { s with credentialKey := some key }
      pure (some (key.publicText env.suite))
    else pure none
  enter .advertised
  emit (.publishDeviceInfo (Json.Record.encode (deviceInfo s.settings key)))

/-- The description of the sender's network, with its credentials opened. -/
def openCredentials (env : Surroundings) (written : NetworkInfo) : Act NetworkInfo := do
  let s ← session
  update fun s => { s with credentialKey := none }
  match written.key, s.credentialKey with
  | none, _ => return written
  | some _, none => throw .noCredentialKey
  | some peerKey, some key =>
    let cipher ← credential (key.derive env.suite peerKey)
    credential (cipher.openNetwork written)

/-- Joins the network that a sender has described. -/
def onCredentials (env : Surroundings) (bytes : Bytes) : Act Unit := do
  match NetworkInfo.decode bytes with
  | .error e => throw (.description e)
  | .ok written =>
    let network ← openCredentials env written
    match network.servicePort? with
    | none => throw (.credentialPort network.port)
    | some port =>
      enter (.credentialsReceived port)
      emit (.joinNetwork network)

/-- Opens the channel to the sender. -/
def onNetworkJoined (host : String) (port : UInt16) : Act Unit := do
  enter .networkJoined
  emit (.openChannel host port)

/-- Sends the acknowledgement of an action, with a body. -/
def acknowledge (env : Surroundings) (sequence : UInt32) (action : Action) (body : Option Json) : Act Unit := do
  let bytes ← onChannel (Channel.sendAck env.provider sequence action body)
  emit (.send bytes)

/-- The answer to an offer, before encryption is decided: the greatest version of the sender that is
not above the own range. -/
def answer (settings : Settings) (offer : VersionOffer) : VersionOffer :=
  { VersionOffer.ofRange (min settings.maxVersion offer.range.greatest) settings.versions with
    threadLimit := some settings.threadLimit }

/-- Agrees on a key with the owner of a public value, and gives the own public value. -/
def agree (env : Surroundings) (peer : String) : Act (Option String) := do
  match CryptoContext.create env.provider .receiver env.random with
  | .error e => throw (.crypto e)
  | .ok c =>
    useRandom
    match CryptoContext.deriveText env.provider peer c with
    | .error e _ => throw (.crypto e)
    | .ok _ established =>
      update fun s => { s with channel := { s.channel with crypto := some established } }
      return c.publicText?

/-- Answers the offer of the sender. -/
def onVersionNegotiation (env : Surroundings) (sequence : UInt32) (body : Option Json) : Act Unit := do
  let offer : VersionOffer ← reading (Channel.readBody .versionNegotiation body)
  let s ← session
  let ack := answer s.settings offer
  if ack.version < max s.settings.minVersion offer.range.least then
    acknowledge env sequence .versionNegotiation (some (Json.Record.toJson ack))
    throw (.noCommonVersion offer.range s.settings.versions)
  else
    let encryption := EncryptionMode.negotiate s.settings.encryption offer.publicValue?.isSome
    let ack ←
      match (if s.settings.encryption then offer.publicValue? else none) with
      | none => pure ack
      | some peer => do
        let value ← agree env peer
        pure { ack with supportsEncryption := true, ephemeralPublicValue := value }
    acknowledge env sequence .versionNegotiation (some (Json.Record.toJson ack))
    update fun s => { s with version := some ack.version, encryption }
    enter .versionNegotiated
    emit (.negotiated ack.version encryption)

/-- Reports how the task ended. -/
def report (env : Surroundings) (outcome : Outcome) (reason : String) : Act Unit := do
  let id ← currentTask
  let body := Json.Record.toJson (StatusReport.ofOutcome id outcome reason)
  let bytes ← onChannel (Channel.sendAction env.provider .status (some body))
  update fun s => { s with reported := some outcome }
  emit (.send bytes)

/-- Downloads the task. -/
def startDownload : Act Unit := do
  let id ← currentTask
  enter .downloading
  emit (.download id)

/-- Takes the announcement of a task: a text is taken at once, files are downloaded, after asking if
the settings say so. -/
def onSendRequest (env : Surroundings) (sequence : UInt32) (body : Option Json) : Act Unit := do
  let request : SendRequest ← reading (Channel.readBody .sendRequest body)
  match request.task? with
  | none => throw .unnamedTask
  | some id =>
    acknowledge env sequence .sendRequest none
    enter .requestReceived
    update fun s => { s with request := some request }
    match request.catShareText with
    | some text =>
      emit (.textReceived id text)
      report env .ok ""
    | none =>
      if (← session).settings.autoAccept then startDownload
      else
        update fun s => { s with awaitingDecision := true }
        emit (.confirmRequest request)

/-- Takes the decision of the user. -/
def onDecision (env : Surroundings) (accept : Bool) : Act Unit := do
  update fun s => { s with awaitingDecision := false }
  if accept then startDownload else report env .refused "user refuse"

/-- Texts in the order of their characters. -/
def sorted (names : List String) : List String := names.mergeSort fun a b => a ≤ b

/-- What is wrong with the names of the downloaded files: where files are announced, the names must
be theirs in any order, and otherwise their number must be the announced one. -/
def mismatch? (request : SendRequest) (names : List String) : Option String :=
  if request.files = [] then
    if names.length = request.fileCount.toNat then none
    else some ("received " ++ names.length.repr ++ " file(s), expected " ++ inspect request.fileCount)
  else
    let expected := sorted (request.files.map (·.name))
    let received := sorted names
    if received = expected then none
    else some ("received " ++ inspect received ++ ", expected " ++ inspect expected)

/-- What is wrong with the result of a download. -/
def fault? (request : SendRequest) : Except String (List String) → Option String
  | .error reason => some reason
  | .ok names => mismatch? request names

/-- Reports the result of the download. -/
def onDownloadFinished (env : Surroundings) (result : Except String (List String)) : Act Unit := do
  match (← session).request with
  | none => throw .noTask
  | some request =>
    match fault? request result with
    | none => report env .ok ""
    | some reason =>
      report env .error reason
      throw (.described .streamCorrupted reason)

/-- Ends the session, whose report was acknowledged. -/
def onStatusAck (outcome : Outcome) : Act Unit := do
  update fun s => { s with reported := none }
  match outcome with
  | .refused => throw .refused
  | .error => throw .acknowledgedError
  | .ok =>
    let id ← currentTask
    update fun s => { s with channel := s.channel.discardCrypto }
    enter .completed
    emit (.finished (.ok id))

/-- What the session makes of what its channel has received. -/
def onInbound (env : Surroundings) (inbound : Inbound) : Act Unit := do
  let s ← session
  match s.stage, inbound with
  | .handshakeConnected, .action sequence .versionNegotiation body => onVersionNegotiation env sequence body
  | .versionNegotiated, .action sequence .sendRequest body => onSendRequest env sequence body
  | _, .ack .status _ =>
    match s.reported with
    | some outcome => onStatusAck outcome
    | none => refuse inbound
  | _, _ => refuse inbound

/-- What the session makes of an event that does not end it at once. -/
def step (env : Surroundings) (event : Event) : Act Unit := do
  let s ← session
  match s.stage, event with
  | .idle, .publish => publish env
  | .advertised, .credentialsWritten bytes => onCredentials env bytes
  | .credentialsReceived port, .networkJoined host => onNetworkJoined host port
  | .credentialsReceived _, .networkJoinFailed reason => throw (.described .networkJoinFailed reason)
  | .networkJoined, .channelOpened => enter .handshakeConnected
  | .requestReceived, .decision accept => if s.awaitingDecision then onDecision env accept else refuse event
  | .downloading, .downloadFinished result =>
    if s.reported.isNone then onDownloadFinished env result else refuse event
  | _, .frame bytes => onInbound env (← onChannel (Channel.receive env.provider bytes))
  | stage, .timedOut => throw (.timedOut (inspect stage))
  | stage, .channelClosed => throw (.channelClosed (inspect stage))
  | _, _ => refuse event

/-- The turn after a failure. -/
def fail (failure : Failure) (t : Turn) : Turn :=
  { t with
    session :=
      { t.session with
        channel := t.session.channel.discardCrypto, credentialKey := none, stage := .failed failure }
    intents := t.intents ++ [.finished (.error failure)] }

/-- What a session makes of an event. A session that has ended takes no notice of it. -/
def handle (env : Surroundings) (event : Event) (s : Receiver) : Turn :=
  if s.stage.isTerminal then { session := s }
  else
    match event with
    | .abort => fail .aborted { session := s }
    | _ =>
      match step env event { session := s } with
      | .ok _ t => t
      | .error failure t => fail failure t

end Receiver

end DirectShare
