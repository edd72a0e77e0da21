import DirectShare.Bytes
import DirectShare.Radio.Service

/-!
# A radio within one device

For tests and demonstrations sender and receiver may share a radio that reaches no further than
their own device. It holds the device description that the receiver publishes and the network
descriptions that the sender writes, of which only a few can wait to be taken.

`Loopback.Radio.publish` and `Loopback.Radio.read` are for the device description, and
`Loopback.Radio.write?` and `Loopback.Radio.take?` for network descriptions, first in first out.
-/

namespace DirectShare.Loopback

/-- A radio within one device. -/
structure Radio where
  /-- The published device description. -/
  published : Option Bytes := none
  /-- The network descriptions that wait to be taken, in the order of writing. -/
  waiting : List Bytes := []
deriving DecidableEq, Repr

namespace Radio

/-- How many network descriptions can wait. -/
def capacity : Nat := 4

/-- Publishes a device description in place of the one before. -/
def publish (radio : Radio) (info : Bytes) : Radio := { radio with published := some info }

/-- The value of a characteristic. Only the device description can be read. -/
def read (radio : Radio) (characteristic : Uuid) : Option Bytes :=
  if characteristic = DirectShare.Radio.deviceCharacteristic then radio.published else none

/-- Writes a network description, if another one can wait. -/
def write? (radio : Radio) (description : Bytes) : Option Radio :=
  if radio.waiting.length < capacity then
    some { radio with waiting := radio.waiting ++ [description] }
  else none

/-- Takes the network description that has waited longest. -/
def take? (radio : Radio) : Option (Bytes × Radio) :=
  match radio.waiting with
  | [] => none
  | description :: waiting => some (description, { radio with waiting })

/-- A published description is read. -/
@[simp] theorem read_publish (radio : Radio) (info : Bytes) :
    (radio.publish info).read DirectShare.Radio.deviceCharacteristic = some info := by
  simp [read, publish]

end Radio

end DirectShare.Loopback
