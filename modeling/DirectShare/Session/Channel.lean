import DirectShare.Crypto.Context
import DirectShare.Session.Failure
import DirectShare.Wire.Decode
import DirectShare.Json.Inspect
import DirectShare.Json.Record

/-!
# Channels

A channel numbers the actions that one side sends, waits for the acknowledgement of each before the
next, and refuses actions of the other side whose numbers do not increase. Once a key is agreed on,
it seals the bodies of all frames but those that negotiate a version.

`Channel.sendAction` and `Channel.sendAck` give the bytes to send. `Channel.receive` takes the bytes
of the other side and gives an `Inbound`, or fails and leaves the channel as far as it has come.
-/

namespace DirectShare

/-- What a channel has received. -/
inductive Inbound where
  /-- An action of the other side. -/
  | action (sequence : UInt32) (action : Action) (body : Option Json)
  /-- The acknowledgement of the own action. -/
  | ack (action : Action) (body : Option Json)
deriving BEq, Repr

instance : Inspect Inbound where
  inspect
    | .action sequence action body =>
      Inspect.record "Action"
        [("sequence", inspect sequence), ("action", inspect action), ("body", inspect body)]
    | .ack action body => Inspect.record "Ack" [("action", inspect action), ("body", inspect body)]

/-- One side's channel. -/
structure Channel where
  /-- The number of the next action. -/
  nextSequence : UInt32
  /-- The action that waits for its acknowledgement, with its number. -/
  pending : Option (UInt32 × Action) := none
  /-- The number of the last action of the other side. -/
  lastPeerSequence : Option UInt32 := none
  /-- The share in the encryption of the session. -/
  crypto : Option CryptoContext := none
deriving DecidableEq, Repr

namespace Channel

/-- The channel of a side before its first frame. -/
def start (role : Role) : Channel := { nextSequence := role.firstSequence }

/-- The context under whose key bodies are sealed, if there is one. -/
def established? (ch : Channel) : Option CryptoContext := ch.crypto.filter (·.isEstablished)

/-- The channel without its share in the encryption. -/
def discardCrypto (ch : Channel) : Channel := { ch with crypto := none }

/-- Lets the share in the encryption do something. -/
def withContext {α : Type} (c : CryptoContext) (act : EStateM CryptoError CryptoContext α) :
    EStateM Failure Channel α := fun ch =>
  match act c with
  | .ok a c => .ok a { ch with crypto := some c }
  | .error e c => .error (.crypto e) { ch with crypto := some c }

/-- Agrees on a key with the owner of a public value in Base64. -/
def derive (p : Provider) (peer : String) : EStateM Failure Channel Unit := do
  match (← get).crypto with
  | none => throw .noKeyPair
  | some c => withContext c (CryptoContext.deriveText p peer)

/-- The payload for a body in the frame of the given kind, number and action. -/
def sealBody (p : Provider) (kind : Frame.Kind) (sequence : UInt32) (action : Action) :
    Option Json → EStateM Failure Channel Frame.Payload
  | none => return .empty
  | some body => do
    match (← get).established? with
    | none => return .json body
    | some c =>
      if action = .versionNegotiation then return .json body
      else
        let header := String.ofList (Frame.headerChars kind sequence action)
        let ciphertext ← withContext c (CryptoContext.encrypt p sequence (Utf8.encode header) (Utf8.encode body.render))
        return .sealed ciphertext

/-- The bytes of a frame with a body, which is sealed if there is a key. -/
def frame (p : Provider) (kind : Frame.Kind) (sequence : UInt32) (action : Action) (body : Option Json) :
    EStateM Failure Channel Bytes := do
  let payload ← sealBody p kind sequence action body
  return Frame.encode { kind, sequence, action, payload }

/-- The bytes of an action, which then waits for its acknowledgement. -/
def sendAction (p : Provider) (action : Action) (body : Option Json) : EStateM Failure Channel Bytes := do
  let ch ← get
  match ch.pending with
  | some (sequence, waiting) => throw (.unacknowledged action waiting sequence)
  | none =>
    let sequence := ch.nextSequence
    if sequence.toNat + 1 < UInt32.size then
      set { ch with nextSequence := sequence + 1 }
      let bytes ← frame p .action sequence action body
      modify fun ch => { ch with pending := some (sequence, action) }
      return bytes
    else throw .sequenceExhausted

/-- The bytes of the acknowledgement of an action of the other side. -/
def sendAck (p : Provider) (sequence : UInt32) (action : Action) (body : Option Json) :
    EStateM Failure Channel Bytes := frame p .ack sequence action body

/-- The body of a frame, opened if it is sealed. -/
def openBody (p : Provider) (f : Frame) : EStateM Failure Channel (Option Json) := do
  match f.payload with
  | .empty => return none
  | .json body =>
    if (← get).established?.isSome ∧ f.action ≠ .versionNegotiation then throw (.plaintext f.header)
    else return some body
  | .sealed ciphertext =>
    match (← get).established? with
    | none => throw (.sealedWithoutKey f.header)
    | some c =>
      let plaintext ← withContext c (CryptoContext.decrypt p f.sequence (Utf8.encode f.header) ciphertext)
      match Json.parseBytes plaintext with
      | none => throw .sealedBody
      | some body => return some body

/-- Takes the acknowledgement of the action that waits for it. -/
def receiveAck (p : Provider) (f : Frame) : EStateM Failure Channel Inbound := do
  match (← get).pending with
  | none => throw (.decode (.unexpectedAck f.sequence f.action))
  | some (sequence, action) =>
    if sequence = f.sequence ∧ action = f.action then
      let body ← openBody p f
      modify fun ch => { ch with pending := none }
      return .ack action body
    else throw (.otherAck f.header sequence action)

/-- Takes an action of the other side, whose number must be greater than the last one. -/
def receiveAction (p : Provider) (f : Frame) : EStateM Failure Channel Inbound := do
  if (← get).lastPeerSequence.any (f.sequence ≤ ·) then throw (.notIncreasing f.sequence)
  else
    let body ← openBody p f
    modify fun ch => { ch with lastPeerSequence := some f.sequence }
    return .action f.sequence f.action body

/-- Takes a frame of the other side. -/
def receive (p : Provider) (bytes : Bytes) : EStateM Failure Channel Inbound := do
  match Frame.decode bytes with
  | .error e => throw (.decode e)
  | .ok f =>
    match f.kind with
    | .ack => receiveAck p f
    | .action => receiveAction p f

/-- The record that the body of a frame stands for. -/
def readBody {α : Type} [Json.Record α] (action : Action) : Option Json → Except Failure α
  | none => .error (.noBody action)
  | some body =>
    match Json.Record.ofJson? body with
    | none => .error (.body action)
    | some a => .ok a

end Channel

end DirectShare
