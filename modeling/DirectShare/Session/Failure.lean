import DirectShare.Wire.Error
import DirectShare.Wire.StatusReport
import DirectShare.Wire.VersionOffer
import DirectShare.Crypto.Error
import DirectShare.Task.Table

/-!
# Failures of a session

Why a session ended without success. Every failure is of a kind, by which programs tell failures
apart, and has a detail for people.

A `Failure` has its `Failure.kind` and its `Failure.detail`, and `Failure.message` puts both into
one text.
-/

namespace DirectShare

/-- The kind of a failure. -/
inductive Failure.Kind where
  /-- The credentials of the network did not reach the other side. -/
  | credentialExchangeFailed
  /-- The receiver is not in the network of the sender. -/
  | networkJoinFailed
  /-- The other side took too long. -/
  | handshakeTimeout
  /-- The two sides have no version in common. -/
  | versionUnsupported
  /-- A ciphertext is not authentic. -/
  | authenticationFailed
  /-- The other side, or the caller, did something out of turn. -/
  | protocolViolation
  /-- The files did not arrive as announced. -/
  | streamCorrupted
  /-- There is no such task, or it is not in a state for this. -/
  | taskNotFound
  /-- The task was granted before. -/
  | taskAlreadyServing
  /-- The receiver's user did not want the task. -/
  | transferRefused
  /-- The caller gave up. -/
  | aborted
deriving DecidableEq, Repr

namespace Failure.Kind

/-- Every kind. -/
def all : List Kind :=
  [.credentialExchangeFailed, .networkJoinFailed, .handshakeTimeout, .versionUnsupported,
    .authenticationFailed, .protocolViolation, .streamCorrupted, .taskNotFound, .taskAlreadyServing,
    .transferRefused, .aborted]

/-- The name of a kind. -/
def name : Kind → String
  | .credentialExchangeFailed => "CredentialExchangeFailed"
  | .networkJoinFailed => "NetworkJoinFailed"
  | .handshakeTimeout => "HandshakeTimeout"
  | .versionUnsupported => "VersionUnsupported"
  | .authenticationFailed => "AuthenticationFailed"
  | .protocolViolation => "ProtocolViolation"
  | .streamCorrupted => "StreamCorrupted"
  | .taskNotFound => "TaskNotFound"
  | .taskAlreadyServing => "TaskAlreadyServing"
  | .transferRefused => "TransferRefused"
  | .aborted => "Aborted"

end Failure.Kind

/-- Why a session ended without success. -/
inductive Failure where
  /-- A frame could not be read. -/
  | decode (e : DecodeError)
  /-- A key could not be agreed on, or a body not sealed or opened. -/
  | crypto (e : CryptoError)
  /-- The table of tasks refused something. -/
  | task (e : TaskError)
  /-- A description could not be read. -/
  | description (e : DecodeError)
  /-- Credentials could not be sealed or opened. -/
  | credential (e : CryptoError)
  /-- Credentials are sealed, although no key was published. -/
  | noCredentialKey
  /-- The description of a network names no port of a service. -/
  | credentialPort (port : Int32)
  /-- The own network names no port of a service. -/
  | servicePort (port : Int32)
  /-- The other side came on another port. -/
  | otherPort (port expected : UInt16)
  /-- Nothing came in time. -/
  | timedOut (stage : String)
  /-- The channel was closed. -/
  | channelClosed (stage : String)
  /-- Something came at the wrong time. -/
  | unexpected (what stage : String)
  /-- The receiver chose a version outside a range. -/
  | versionChoice (version : UInt32) (peer here : VersionRange)
  /-- The two ranges of versions have no version in common. -/
  | noCommonVersion (peer here : VersionRange)
  /-- An action is to be sent while another one waits for its acknowledgement. -/
  | unacknowledged (action waiting : Action) (sequence : UInt32)
  /-- All numbers for frames have been used. -/
  | sequenceExhausted
  /-- An acknowledgement is not the one that is waited for. -/
  | otherAck (header : String) (sequence : UInt32) (action : Action)
  /-- The number of an action is not greater than that of an earlier one. -/
  | notIncreasing (sequence : UInt32)
  /-- A body is readable, although the session is encrypted. -/
  | plaintext (header : String)
  /-- A body is sealed, although there is no key. -/
  | sealedWithoutKey (header : String)
  /-- A sealed body is not a JSON text. -/
  | sealedBody
  /-- A frame has no body. -/
  | noBody (action : Action)
  /-- A body has not the fields that it should have. -/
  | body (action : Action)
  /-- There is no key pair. -/
  | noKeyPair
  /-- There is no task. -/
  | noTask
  /-- A report is about another task. -/
  | otherTask (reported expected : String)
  /-- A request names no task. -/
  | unnamedTask
  /-- The receiver reports an error. -/
  | reportedError (reason : String)
  /-- The receiver reports a refusal. -/
  | reportedRefusal (reason : String)
  /-- The user has refused the task. -/
  | refused
  /-- The report of an error was acknowledged. -/
  | acknowledgedError
  /-- The caller gave up. -/
  | aborted
  /-- A failure of the given kind, in words. -/
  | described (kind : Failure.Kind) (detail : String)
deriving DecidableEq, Repr

namespace Failure

/-- The kind of a failure. -/
def kind : Failure → Kind
  | .crypto .authenticationFailed => .authenticationFailed
  | .task (.alreadyServing _) => .taskAlreadyServing
  | .task _ => .taskNotFound
  | .description _ | .credential _ | .noCredentialKey | .credentialPort _ => .credentialExchangeFailed
  | .servicePort _ | .otherPort .. => .networkJoinFailed
  | .timedOut _ => .handshakeTimeout
  | .versionChoice .. | .noCommonVersion .. => .versionUnsupported
  | .reportedError _ => .streamCorrupted
  | .reportedRefusal _ | .refused => .transferRefused
  | .aborted => .aborted
  | .described kind _ => kind
  | _ => .protocolViolation

/-- The detail of a failure. -/
def detail : Failure → String
  | .decode e | .description e => e.message
  | .crypto e | .credential e => e.message
  | .task e => e.message
  | .noCredentialKey => "sealed credentials but no local key was published"
  | .credentialPort port => "invalid port " ++ inspect port
  | .servicePort port => "invalid service port " ++ inspect port
  | .otherPort port expected =>
    "peer connected on port " ++ inspect port ++ ", expected " ++ inspect expected
  | .timedOut stage => "timed out in " ++ stage
  | .channelClosed stage => "channel closed in " ++ stage
  | .unexpected what stage => "unexpected " ++ what ++ " in " ++ stage
  | .versionChoice version peer here =>
    "peer selected version " ++ inspect version ++ " (peer " ++ peer.text ++ ", local " ++ here.text ++ ")"
  | .noCommonVersion peer here => "no common version: peer " ++ peer.text ++ ", local " ++ here.text
  | .unacknowledged action waiting sequence =>
    "cannot send " ++ action.name ++ " while " ++ waiting.name ++ " #" ++ inspect sequence
      ++ " is unacknowledged"
  | .sequenceExhausted => "sequence space exhausted"
  | .otherAck header sequence action =>
    "ack " ++ header ++ " does not match pending " ++ inspect sequence ++ ":" ++ action.name
  | .notIncreasing sequence => "action sequence " ++ inspect sequence ++ " is not increasing"
  | .plaintext header => "plaintext " ++ header ++ " after encryption was negotiated"
  | .sealedWithoutKey header => "sealed " ++ header ++ " without a negotiated key"
  | .sealedBody => "sealed body is not JSON: no value"
  | .noBody action => action.name ++ " without payload"
  | .body action => "invalid " ++ action.name ++ " payload: not a record of its fields"
  | .noKeyPair => "no local ephemeral key"
  | .noTask => "no active task"
  | .otherTask reported expected => "status for task " ++ reported ++ ", expected " ++ expected
  | .unnamedTask => "sendRequest without task id"
  | .reportedError reason => "receiver reported error: " ++ reason
  | .reportedRefusal reason => "receiver refused: " ++ reason
  | .refused => "transfer refused by user"
  | .acknowledgedError => "status ack after " ++ inspect (some Outcome.error)
  | .aborted => "aborted by caller"
  | .described _ detail => detail

/-- The message for the reader of a report. -/
def message (f : Failure) : String := f.kind.name ++ ": " ++ f.detail

end Failure

end DirectShare
