import DirectShare.Wire.Action

/-!
# Reading errors

Why bytes from the other side were refused.

A `Frame.Fault` tells what is wrong with the text of a frame, and a `DecodeError` also has the other
reasons.
-/

namespace DirectShare

/-- What is wrong with the text of a frame; of several faults the first in this order is named. -/
inductive Frame.Fault where
  /-- The text is not made of a kind, a number and a name. -/
  | layout
  /-- The kind is none of the two words. -/
  | kind
  /-- The number is not written in plain digits or needs more than 32 bits. -/
  | sequence
  /-- The name belongs to no action. -/
  | action
  /-- The sealed payload is not in Base64. -/
  | base64
  /-- The payload is not a JSON text. -/
  | json
deriving DecidableEq, Repr

/-- The words for a fault. -/
def Frame.Fault.words : Frame.Fault → String
  | .layout => "bad layout"
  | .kind => "unknown message type"
  | .sequence => "sequence out of range"
  | .action => "unknown action"
  | .base64 => "sealed payload is not base64"
  | .json => "payload is not JSON"

/-- Why bytes from the other side were refused. -/
inductive DecodeError where
  /-- The bytes of a frame are not UTF-8. -/
  | notUtf8
  /-- The text of a frame has a fault. -/
  | frame (fault : Frame.Fault) (text : String)
  /-- The bytes are not those of a device description. -/
  | deviceInfo
  /-- The bytes are not those of a network description. -/
  | networkInfo
  /-- Any other fault, in words. -/
  | malformed (detail : String)
  /-- A frame acknowledges an action that is not waiting for it. -/
  | unexpectedAck (sequence : UInt32) (action : Action)
deriving DecidableEq, Repr

/-- The message for the reader of a report. -/
def DecodeError.message : DecodeError → String
  | .notUtf8 => "malformed message: frame is not valid UTF-8"
  | .frame fault text => "malformed message: " ++ fault.words ++ ": " ++ Text.quote text
  | .deviceInfo => "malformed message: invalid DeviceInfo: not a record of its fields"
  | .networkInfo => "malformed message: invalid P2pInfo: not a record of its fields"
  | .malformed detail => "malformed message: " ++ detail
  | .unexpectedAck sequence action =>
    "unexpected " ++ action.name ++ " ack #" ++ sequence.toNat.repr ++ ": no matching action was sent"

end DirectShare
