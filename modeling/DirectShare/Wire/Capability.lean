/-!
# Capabilities

What a receiver can do stands in the bits of one number.

`Capability.encryption` and `Capability.wifi5GHz` are the bits, and `Capability.has` tells whether a
number holds one.
-/

namespace DirectShare.Capability

/-- The receiver can open sealed credentials. -/
def encryption : UInt32 := 1

/-- The receiver can join networks in the 5 GHz band. -/
def wifi5GHz : UInt32 := 2

/-- Whether the bits hold a capability. -/
def has (bits capability : UInt32) : Bool := bits &&& capability ≠ 0

end DirectShare.Capability
