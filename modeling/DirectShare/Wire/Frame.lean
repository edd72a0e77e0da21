import DirectShare.Wire.Action
import DirectShare.Json.Parser
import DirectShare.Text.Base64

/-!
# Frames

A frame is one message of the handshake, written `kind:sequence:action` and, unless its payload is
empty, followed by `?` and the payload: a JSON text, or `!` and the Base64 text of sealed bytes.

`Frame.header` is the text before the payload, which sealing authenticates. `Frame.text` is the
written frame, and `Frame.encode` its bytes.
-/

namespace DirectShare

/-- Whether a frame asks for something or acknowledges that. -/
inductive Frame.Kind where
  /-- The frame asks for its action. -/
  | action
  /-- The frame acknowledges the action with its sequence number. -/
  | ack
deriving DecidableEq, Repr

/-- What a frame carries. -/
inductive Frame.Payload where
  /-- Nothing. -/
  | empty
  /-- A readable body. -/
  | json (body : Json)
  /-- A body under the session key. -/
  | sealed (ciphertext : Bytes)
deriving BEq, Repr

/-- One message of the handshake. -/
structure Frame where
  /-- Whether the frame asks or acknowledges. -/
  kind : Frame.Kind
  /-- The number that an acknowledgement repeats. -/
  sequence : UInt32
  /-- What the frame is about. -/
  action : Action
  /-- What the frame carries. -/
  payload : Frame.Payload
deriving BEq, Repr

namespace Frame

/-- The word for a kind on the wire. -/
def Kind.word : Kind → String
  | .action => "action"
  | .ack => "ack"

/-- Whether a payload is empty. -/
def Payload.isEmpty : Payload → Bool
  | .empty => true
  | _ => false

/-- The characters of a payload, with the sign that separates it from the header. -/
def Payload.chars : Payload → List Char
  | .empty => []
  | .json body => '?' :: body.chars
  | .sealed ciphertext => '?' :: '!' :: Base64.letters ciphertext

/-- The characters before the payload. -/
def headerChars (kind : Kind) (sequence : UInt32) (action : Action) : List Char :=
  kind.word.toList ++ ':' :: (Nat.toDigits 10 sequence.toNat ++ ':' :: action.name.toList)

/-- The text before the payload. -/
def header (f : Frame) : String := String.ofList (headerChars f.kind f.sequence f.action)

/-- The characters of a frame. -/
def chars (f : Frame) : List Char := headerChars f.kind f.sequence f.action ++ f.payload.chars

/-- The written frame. -/
def text (f : Frame) : String := String.ofList f.chars

/-- The bytes of a frame. -/
def encode (f : Frame) : Bytes := Utf8.encode f.text

/-- The acknowledgement of a frame, with the given payload. -/
def acknowledgement (f : Frame) (payload : Payload) : Frame := { f with kind := .ack, payload }

end Frame

end DirectShare
