import DirectShare.Text.Inspect

/-!
# Roles

The sender opens a network and offers a task; the receiver joins and takes it.

`Role.firstSequence` and `Role.nonceByte` are what tells apart the frames and the nonces of the two
sides.
-/

namespace DirectShare

/-- A side of a session. -/
inductive Role where
  /-- The side that offers a task. -/
  | sender
  /-- The side that takes it. -/
  | receiver
deriving DecidableEq, Repr

namespace Role

/-- The other side. -/
def peer : Role → Role
  | .sender => .receiver
  | .receiver => .sender

/-- The first byte of the nonces of a side: its initial letter. -/
def nonceByte : Role → UInt8
  | .sender => 0x53
  | .receiver => 0x52

/-- The number of the first action that a side sends. -/
def firstSequence : Role → UInt32
  | .sender => 0
  | .receiver => 100

/-- The other side of the other side is the first one. -/
@[simp] theorem peer_peer (r : Role) : r.peer.peer = r := by
  cases r <;> rfl

/-- The two sides have different bytes in their nonces. -/
theorem nonceByte_injective {r s : Role} (h : r.nonceByte = s.nonceByte) : r = s := by
  revert h
  cases r <;> cases s <;> decide

instance : Inspect Role where
  inspect
    | .sender => "Sender"
    | .receiver => "Receiver"

end Role

end DirectShare
