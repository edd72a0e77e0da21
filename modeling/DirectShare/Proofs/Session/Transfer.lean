import Mathlib
import DirectShare.Proofs.Session.Agreement
import DirectShare.Proofs.Session.Exchange
import DirectShare.Proofs.Session.Invitation
import DirectShare.Proofs.Task.Announcement

/-!
# Transfers

A whole transfer: a sender, a receiver, the frames between them, the table of tasks, and those who carry
out what both sides ask for. Nothing gets lost and nobody gives up. What happens next is left open: each
side sees its own events in their order, and everything else may happen at any moment.

A `Plan` says what is to be transferred, between whom and with which primitives, and a `World` is a transfer
under way. `Plan.Step` and `Plan.Move` say what may happen next, `Plan.IsOver` how a transfer ends, and
`World.remaining` bounds what is still to happen. `Plan.credentialsFor_opens` is the part that needs the
primitives: the credentials that are written for a receiver are opened by it.
-/

namespace DirectShare

open Handshake (bestVersion worstVersion offering offerFrame answerFrame)
open Exchange

/-! ### Worlds -/

/-- What is to be done for a receiver, for the download service or for a sender. -/
inductive Cue where
  /-- The user is to decide. -/
  | decide
  /-- The download service is to be asked for a task. -/
  | download (id : String)
  /-- The sender is to be told that the download has begun. -/
  | serve
  /-- The receiver is to be told how the download has ended. -/
  | finish (result : Except String (List String))

/-- What an intent of a receiver asks for. -/
def Receiver.Intent.cue? : Receiver.Intent → Option Cue
  | .confirmRequest _ => some .decide
  | .download id => some (.download id)
  | _ => none

/-- The device description that an intent publishes. -/
def Receiver.Intent.published? : Receiver.Intent → Option Bytes
  | .publishDeviceInfo bytes => some bytes
  | _ => none

/-- The credentials that an intent writes. -/
def Sender.Intent.written? : Sender.Intent → Option Bytes
  | .writeCredentials bytes => some bytes
  | _ => none

/-- How the session has ended, if an intent says so. -/
def Sender.Intent.result? : Sender.Intent → Option (Except Failure String)
  | .finished result => some result
  | _ => none

/-- How the session has ended, if an intent says so. -/
def Receiver.Intent.result? : Receiver.Intent → Option (Except Failure String)
  | .finished result => some result
  | _ => none

/-- A transfer under way: both sides and what is between them, how many of the events of its own each side
has seen, and what is to be done. -/
structure World extends Net where
  /-- How many events other than frames the sender has seen on its way to an open channel. -/
  senderSeen : Nat := 0
  /-- How many events other than frames the receiver has seen on its way to an open channel. -/
  receiverSeen : Nat := 0
  /-- What is to be done, in any order. -/
  cues : List Cue := []
  /-- What the download service was granted. -/
  grants : List TaskTable.Grant := []

namespace World

variable (w : World)

def senderDoes (env : Surroundings) (event : Sender.Event) : World :=
  { w with toNet := w.toNet.senderDoes env event }

def receiverDoes (env : Surroundings) (event : Receiver.Event) : World :=
  { w with
    toNet := w.toNet.receiverDoes env event
    cues := w.cues ++ (w.receiver.handle env event).intents.filterMap (·.cue?) }

/-- How the sender has ended, each time it has said so. -/
def senderResults : List (Except Failure String) := w.senderSaid.filterMap (·.result?)

/-- How the receiver has ended, each time it has said so. -/
def receiverResults : List (Except Failure String) := w.receiverSaid.filterMap (·.result?)

variable {w} {env : Surroundings}

/-- What the sender does with an event is its turn. -/
lemma senderDoes_eq {event : Sender.Event} {t : Sender.Turn} (h : w.sender.handle env event w.table = t) :
    ∃ log, w.senderDoes env event =
      { w with
        sender := t.session
        table := t.table
        toReceiver := w.toReceiver ++ t.intents.filterMap (·.frame?)
        senderSaid := w.senderSaid ++ t.intents
        log } := by
  subst h
  exact ⟨_, rfl⟩

/-- What the receiver does with an event is its turn. -/
lemma receiverDoes_eq {event : Receiver.Event} {t : Receiver.Turn} (h : w.receiver.handle env event = t) :
    ∃ log, w.receiverDoes env event =
      { w with
        receiver := t.session
        toSender := w.toSender ++ t.intents.filterMap (·.frame?)
        receiverSaid := w.receiverSaid ++ t.intents
        log
        cues := w.cues ++ t.intents.filterMap (·.cue?) } := by
  subst h
  exact ⟨_, rfl⟩

/-- A sender that has ended changes nothing. -/
lemma senderDoes_of_isTerminal (h : w.sender.stage.isTerminal = true) (event : Sender.Event) :
    w.senderDoes env event = w := by
  rw [senderDoes, Net.senderDoes_of_isTerminal h]

end World

/-! ### Plans -/

/-- The primitives of both sides, and the random bytes that they draw. -/
structure Tools where
  provider : Provider
  suite : CredentialSuite
  random : Set Bytes

/-- The primitives succeed for what is drawn, and undo each other. -/
structure Tools.Work (tools : Tools) : Prop where
  cooperates : tools.provider.Cooperates
  opens : tools.provider.OpensSealed
  draws : tools.random.Nonempty
  generates : ∀ r ∈ tools.random, ∃ pair, tools.provider.generate r = .ok pair
  fits : ∀ a ∈ tools.random, ∀ b ∈ tools.random, tools.suite.Fits ⟨a⟩ ⟨b⟩

/-- What is to be transferred, between whom, and what the user of the receiver decides when asked. -/
structure Plan where
  sender : Settings
  receiver : Settings
  /-- The session name of the sender. -/
  id : String
  task : SharedTask
  /-- The network of the sender. -/
  network : NetworkInfo
  /-- The port of the sender's service. -/
  port : UInt16
  /-- The address of the sender in its network. -/
  host : String
  /-- What the user of the receiver decides when asked. -/
  accept : Bool
  tools : Tools

namespace Plan

variable (plan : Plan)

/-- The task has a name and sizes that add up in 64 bits, the network has a port and no key unless one is put
there, and the primitives work. -/
structure Works : Prop where
  named : plan.task.id ≠ ""
  sized : plan.task.byteCount < UInt64.size
  port : plan.network.servicePort? = some plan.port
  unsealed : (plan.sender.encryption && plan.receiver.encryption) = false → plan.network.key = none
  tools : plan.tools.Work

/-- Either side is given the primitives, and random bytes that were drawn. The time does not matter. -/
structure Has (env : Surroundings) : Prop where
  provider : env.provider = plan.tools.provider
  suite : env.suite = plan.tools.suite
  random : env.random ∈ plan.tools.random

/-- The announcement of the task. -/
def request : SendRequest :=
  plan.task.announce (UInt64.ofNat plan.task.byteCount) plan.id plan.sender.deviceName

/-- What the sender works on. -/
def job : Sender.Job := ⟨plan.task.id, plan.request, plan.network, plan.port⟩

/-- Both sides before anything has happened. -/
def start (table : TaskTable) : World :=
  { toNet := Net.start plan.sender plan.receiver plan.id table }

/-! ### What may happen next -/

/-- The next event of the sender's own: its task begins, it reads what the receiver has published, its
credentials are written, the receiver comes, and the channel opens. -/
def senderEvent? (w : World) : Option Sender.Event :=
  match w.senderSeen with
  | 0 => some (.begin plan.task plan.network)
  | 1 => (w.receiverSaid.findSome? (·.published?)).map .deviceInfoRead
  | 2 => some .credentialsWritten
  | 3 => some (.peerConnected plan.port)
  | 4 => some .channelOpened
  | _ => none

/-- The next event of the receiver's own: it is to be found, the credentials come, the network is joined,
and the channel opens. -/
def receiverEvent? (w : World) : Option Receiver.Event :=
  match w.receiverSeen with
  | 0 => some .publish
  | 1 => (w.senderSaid.findSome? (·.written?)).map .credentialsWritten
  | 2 => some (.networkJoined plan.host)
  | 3 => some .channelOpened
  | _ => none

/-- What becomes of something that is to be done. -/
inductive Handles : World → Cue → World → Prop
  /-- The user decides. -/
  | decides (w : World) (env : Surroundings) : plan.Has env →
      Handles w .decide (w.receiverDoes env (.decision plan.accept))
  /-- The download service is granted the task: the download begins, and gives the files. -/
  | grants (w : World) (id : String) (grant : TaskTable.Grant) (table : TaskTable) :
      w.table.grant id = .ok (grant, table) →
      Handles w (.download id)
        { w with
          table
          grants := w.grants ++ [grant]
          cues := w.cues ++ [.serve, .finish (.ok (grant.files.map (·.name)))] }
  /-- The download service is denied the task, and will not be granted it later: the download fails. -/
  | denied (w : World) (id : String) (e : TaskError) : w.table.grant id = .error e → e ≠ .notRequested id →
      Handles w (.download id) { w with cues := w.cues ++ [.finish (.error e.message)] }
  /-- The sender is told that the download has begun. -/
  | serves (w : World) (env : Surroundings) : plan.Has env →
      Handles w .serve (w.senderDoes env .serveStarted)
  /-- The receiver is told how the download has ended. -/
  | finishes (w : World) (env : Surroundings) (result : Except String (List String)) : plan.Has env →
      Handles w (.finish result) (w.receiverDoes env (.downloadFinished result))

/-- What may happen next. Frames arrive after the channel is open, in their order and as they were sent. -/
inductive Step : World → World → Prop
  /-- The sender sees its next event. -/
  | sender (w : World) (env : Surroundings) (event : Sender.Event) : plan.Has env →
      plan.senderEvent? w = some event →
      Step w { w.senderDoes env event with senderSeen := w.senderSeen + 1 }
  /-- The receiver sees its next event. -/
  | receiver (w : World) (env : Surroundings) (event : Receiver.Event) : plan.Has env →
      plan.receiverEvent? w = some event →
      Step w { w.receiverDoes env event with receiverSeen := w.receiverSeen + 1 }
  /-- The next frame arrives at the sender. -/
  | toSender (w : World) (env : Surroundings) (bytes : Bytes) (rest : List Bytes) : plan.Has env →
      w.senderSeen = 5 → w.toSender = bytes :: rest →
      Step w ({ w with toSender := rest }.senderDoes env (.frame bytes))
  /-- The next frame arrives at the receiver. -/
  | toReceiver (w : World) (env : Surroundings) (bytes : Bytes) (rest : List Bytes) : plan.Has env →
      w.receiverSeen = 4 → w.toReceiver = bytes :: rest →
      Step w ({ w with toReceiver := rest }.receiverDoes env (.frame bytes))
  /-- Something that is to be done is done. -/
  | cue (w w' : World) (cue : Cue) (before after : List Cue) : w.cues = before ++ cue :: after →
      plan.Handles { w with cues := before ++ after } cue w' → Step w w'

/-- What may happen next, in vain or not: the download service may also be asked for a task that it will be
granted later, which changes nothing. -/
inductive Move : World → World → Prop
  | step (w w' : World) : plan.Step w w' → Move w w'
  | retries (w : World) (id : String) : .download id ∈ w.cues →
      w.table.grant id = .error (.notRequested id) → Move w w

/-! ### How a transfer ends -/

/-- Why the transfer fails, if it does: there is no version in common, or the user is asked and refuses. -/
def failure? : Option Failure.Kind :=
  if bestVersion plan.sender plan.receiver < worstVersion plan.sender plan.receiver then
    some .versionUnsupported
  else if plan.task.text = none ∧ plan.receiver.autoAccept = false ∧ plan.accept = false then
    some .transferRefused
  else none

/-- How a session ends: with the task, or with a failure of the one kind. -/
def Ends (result : Except Failure String) : Prop :=
  match plan.failure?, result with
  | none, .ok id => id = plan.task.id
  | some kind, .error e => e.kind = kind
  | _, _ => False

/-- How the task ends in the table. -/
def verdict : TaskEnd := if plan.failure?.isSome then .failed else .completed

/-- All files of the task. -/
def grant : TaskTable.Grant := ⟨plan.task.id, plan.task.files⟩

/-- What the download service is granted in all: the files, once, if there is no text and nothing fails. -/
def grants : List TaskTable.Grant :=
  if plan.task.text = none ∧ plan.failure? = none then [plan.grant] else []

/-- What the receiver does with the task: it shows the text, or downloads the files. -/
def arrival : Receiver.Intent :=
  match plan.task.text with
  | some text => .textReceived plan.task.id text
  | none => .download plan.task.id

/-- The sender has told that it agrees on the best version, and on encryption if both want it. -/
def SenderAgreed (said : List Sender.Intent) : Prop :=
  .negotiated (bestVersion plan.sender plan.receiver)
    (.negotiate plan.sender.encryption plan.receiver.encryption) ∈ said

/-- The receiver has told that it agrees on the best version, and on encryption if both want it. -/
def ReceiverAgreed (said : List Receiver.Intent) : Prop :=
  .negotiated (bestVersion plan.sender plan.receiver)
    (.negotiate plan.sender.encryption plan.receiver.encryption) ∈ said

/-- The transfer has come to its end: either side has ended, once, and the table says how. -/
structure IsOver (w : World) : Prop where
  sender : ∃ result, w.senderResults = [result] ∧ plan.Ends result
  receiver : ∃ result, w.receiverResults = [result] ∧ plan.Ends result
  table : w.table.state? plan.task.id = some (.ended plan.verdict)
  agreed : worstVersion plan.sender plan.receiver ≤ bestVersion plan.sender plan.receiver →
    plan.SenderAgreed w.senderSaid ∧ plan.ReceiverAgreed w.receiverSaid
  arrival : plan.failure? = none → plan.arrival ∈ w.receiverSaid
  grants : w.grants = plan.grants

end Plan

/-! ### How much is left -/

/-- How many frames a sender has still to take, at most. -/
def Sender.Stage.frames : Sender.Stage → Nat
  | .completed | .failed _ => 0
  | .requestAcked | .serving => 1
  | .requestSent => 2
  | _ => 3

/-- How many frames a receiver has still to take, at most, and what they lead to. -/
def Receiver.Stage.frames : Receiver.Stage → Nat
  -- the 6 are the request, the decision that it may lead to, of weight 4, and the acknowledged report
  | .completed | .failed _ => 0
  | .requestReceived | .downloading => 1
  | .versionNegotiated => 6
  | _ => 7

/-- A sender that has ended has no frame to take. -/
lemma Sender.Stage.frames_of_isTerminal {stage : Sender.Stage} (h : stage.isTerminal = true) :
    stage.frames = 0 := by
  cases stage with
  | completed => rfl
  | failed => rfl
  | _ => cases h

/-- A receiver that has ended has no frame to come. -/
lemma Receiver.Stage.frames_of_isTerminal {stage : Receiver.Stage} (h : stage.isTerminal = true) :
    stage.frames = 0 := by
  cases stage with
  | completed => rfl
  | failed => rfl
  | _ => cases h

/-- A receiver that goes on has a frame or a cue to come. -/
lemma Receiver.Stage.frames_pos {stage : Receiver.Stage} (h : stage.isTerminal = false) :
    0 < stage.frames := by
  cases stage with
  | completed => cases h
  | failed => cases h
  | _ => simp [frames]

/-- What is to be done, and what that leads to. -/
def Cue.weight : Cue → Nat
  | .decide => 4
  | .download _ => 3
  | .serve | .finish _ => 1

/-- A bound on the number of steps that are left once both channels are open. -/
def World.load (w : World) : Nat :=
  w.sender.stage.frames + w.receiver.stage.frames + (w.cues.map (·.weight)).sum

/-- A bound on the number of steps that are left. -/
def World.remaining (w : World) : Nat := (5 - w.senderSeen) + (4 - w.receiverSeen) + w.load

example (plan : Plan) (table : TaskTable) : (plan.start table).remaining = 19 := rfl

/-! ### The credentials -/

namespace Plan

variable {plan : Plan}

/-- A receiver with the given key opens the description of a network, and finds the port of the plan. -/
def Opens (plan : Plan) (k : Option CredentialKey) (written : NetworkInfo) : Prop :=
  ∃ network, network.servicePort? = some plan.port ∧ ∀ env r, plan.Has env → r.credentialKey = k →
    Receiver.openCredentials env written { session := r } =
      .ok network { session := { r with credentialKey := none } }

/-- The key that a receiver publishes, if it does. -/
def IsKey (plan : Plan) (k : Option CredentialKey) : Prop :=
  ∃ env, plan.Has env ∧ k = Receiver.credentialKey? env plan.receiver

/-- A description that is not sealed can be opened with any key. -/
lemma opens_unsealed {written : NetworkInfo} (k : Option CredentialKey) (hkey : written.key = none)
    (hport : written.servicePort? = some plan.port) : plan.Opens k written := by
  exact ⟨written, hport, fun _ _ _ _ => Receiver.openCredentials_plain hkey⟩

/-- A description that was sealed for a key can be opened with it. -/
lemma opens_sealed {k l : CredentialKey} {cipher : CredentialCipher}
    (hagree : plan.tools.suite.agree k (plan.tools.suite.publicKey l) = some cipher) (id : String)
    (hport : plan.network.servicePort? = some plan.port) :
    plan.Opens (some k) (cipher.sealNetwork plan.network id (l.publicText plan.tools.suite)) := by
  refine ⟨{ plan.network with id := some id, key := none, catShare := some 1 }, hport, ?_⟩
  intro env r henv hr
  rw [← henv.suite] at hagree ⊢
  exact Receiver.openCredentials_sealed hr hagree id

/-- The credentials that are written for a receiver are opened by it, sealed or not. -/
theorem credentialsFor_opens (hplan : plan.Works) {env : Surroundings} (henv : plan.Has env)
    {k : Option CredentialKey} (hk : plan.IsKey k) (info : DeviceInfo)
    (hinfo : info.key = k.map (·.publicText plan.tools.suite)) (s : Sender) (hs : s.settings = plan.sender)
    (table : TaskTable) :
    ∃ written used, plan.Opens k written ∧
      Sender.credentialsFor env info plan.network { session := s, table } =
        .ok written { session := s, table, usedRandom := used } := by
  have hplain : plan.network.key = none → plan.Opens k { plan.network with id := some s.id } :=
    fun hkey => opens_unsealed k hkey hplan.port
  obtain ⟨env', henv', hl⟩ := hk
  cases hwanted : plan.sender.encryption with
  | false =>
    exact ⟨_, false, hplain (hplan.unsealed (by simp [hwanted])),
      Sender.credentialsFor_plain (if_neg (by simp [hs, hwanted]))⟩
  | true =>
    cases hpeer : k with
    | none =>
      have hreceiver : plan.receiver.encryption = false := by
        rw [hpeer, Receiver.credentialKey?] at hl
        split_ifs at hl with hreceiver
        simpa using hreceiver
      rw [hpeer] at hplain hinfo
      exact ⟨_, false, hplain (hplan.unsealed (by simp [hreceiver])),
        Sender.credentialsFor_plain (by rw [hinfo, Option.map_none, ite_self])⟩
    | some l =>
      -- both keys are made of drawn bytes, so that they fit together
      have hdrawn : l = ⟨env'.random⟩ := by
        rw [hpeer, Receiver.credentialKey?] at hl
        split_ifs at hl
        exact Option.some.inj hl
      subst hdrawn
      obtain ⟨cipher, hhere, hthere⟩ := hplan.tools.fits _ henv.random _ henv'.random
      rw [hpeer, ← henv.suite] at hinfo
      have hopens := opens_sealed hthere s.id hplan.port
      rw [← henv.suite] at hhere hopens
      exact ⟨_, true, hopens, Sender.credentialsFor_sealed (by rw [hs, hwanted]) hinfo hhere⟩

end Plan

end DirectShare
