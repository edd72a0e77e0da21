import DirectShare.Wire.NetworkInfo

/-!
# A network within one device

For tests and demonstrations sender and receiver may share a network that reaches no further than
their own device. The sender creates a group under a random name and password, and who knows both
can join it.

A group is known by its `Credentials`. `Loopback.Network.create` and `Loopback.Network.remove` open
and close the group of a network, and `Loopback.Network.join` succeeds for those who know both.
-/

namespace DirectShare

/-- The name and the password of a group. -/
structure Credentials where
  /-- The name. -/
  ssid : String
  /-- The password. -/
  psk : String
deriving DecidableEq, Repr

namespace Credentials

/-- The digit or small letter with the given number. -/
def letter (n : Fin 36) : Char := Char.ofNat (if n.val < 10 then 48 + n.val else 87 + n.val)

/-- How every name of a group starts. -/
def start : String := "DIRECT-"

/-- The number of random letters of a name and of a password. -/
def letterCount : Nat := 8

/-- The name and the password that random numbers stand for. -/
def random (numbers : Nat → Fin 36) : Credentials where
  ssid := start ++ String.ofList ((List.range letterCount).map fun i => letter (numbers i))
  psk := String.ofList ((List.range letterCount).map fun i => letter (numbers (letterCount + i)))

end Credentials

/-- Why a network cannot be joined. -/
inductive NetworkError where
  /-- There is a group, with another name or password. -/
  | rejected (ssid : String)
  /-- There is no group. -/
  | absent (ssid : String)
deriving DecidableEq, Repr

/-- The message for the owner of the device. -/
def NetworkError.message : NetworkError → String
  | .rejected ssid => "network error: authentication rejected for '" ++ ssid ++ "'"
  | .absent ssid => "network error: no group named '" ++ ssid ++ "'"

namespace Loopback

/-- A network within one device. -/
structure Network where
  /-- The description of the group. -/
  group : Option NetworkInfo := none
deriving DecidableEq, Repr

namespace Network

/-- The address of the Wi-Fi device. -/
def macAddress : String := "02:00:00:00:00:01"

/-- The address at which a member of the group reaches its host. -/
def host : String := "127.0.0.1"

/-- The group for a service on the given port. -/
def groupFor (credentials : Credentials) (port : UInt16) : NetworkInfo :=
  NetworkInfo.plain credentials.ssid credentials.psk macAddress (Int32.ofNat port.toNat)

/-- Creates a group in place of the one before. -/
def create (_ : Network) (credentials : Credentials) (port : UInt16) : Network :=
  { group := some (groupFor credentials port) }

/-- Removes the group. -/
def remove (_ : Network) : Network := { group := none }

/-- The address of the host, for who knows the name and the password of the group. -/
def join (network : Network) (info : NetworkInfo) : Except NetworkError String :=
  match network.group with
  | none => .error (.absent info.ssid)
  | some g => if g.ssid = info.ssid ∧ g.psk = info.psk then .ok host else .error (.rejected info.ssid)

/-- A group that was just created can be joined with its credentials. -/
@[simp] theorem join_create (network : Network) (credentials : Credentials) (port : UInt16) :
    (network.create credentials port).join (groupFor credentials port) = .ok host := by
  simp [join, create]

end Network

end Loopback

end DirectShare
