import DirectShare.Brand
import DirectShare.Wire.VersionOffer

/-!
# Settings

What the owner of a device decides about its sessions.

The range of versions that `Settings` ask for is `Settings.versions`; `Settings.validate` refuses
one that is empty or starts at zero.
-/

namespace DirectShare

/-- The protocol version of this library. -/
def protocolVersion : UInt32 := 1

/-- What the owner of a device decides about its sessions. -/
structure Settings where
  deviceName : String
  /-- The maker of the device. -/
  brand : Brand := .linux
  /-- The address of its Wi-Fi device. -/
  macAddress : String := "02:00:00:00:00:00"
  /-- The least supported version. -/
  minVersion : UInt32 := protocolVersion
  /-- The greatest supported version. -/
  maxVersion : UInt32 := protocolVersion
  /-- Whether sessions are encrypted where the other side wants it too. -/
  encryption : Bool := true
  /-- Whether networks in the 5 GHz band can be joined. -/
  supports5GHz : Bool := true
  /-- Whether tasks are taken without asking. -/
  autoAccept : Bool := true
  /-- How many downloads may run side by side. -/
  threadLimit : UInt32 := 5
  /-- For how many seconds a task is kept after its end. -/
  taskGrace : UInt64 := 30
  /-- How many seconds a task may take. -/
  sessionLifetime : UInt64 := 600
deriving DecidableEq, Repr

/-- Why settings are refused. -/
inductive SettingsError where
  /-- The text could not be read from its file. -/
  | unreadable
  /-- The text gives no settings. -/
  | malformed
  /-- The least version is zero. -/
  | noVersion
  /-- The least version is greater than the greatest. -/
  | inverted (least greatest : UInt32)
deriving DecidableEq, Repr

/-- The message for the owner. -/
def SettingsError.message : SettingsError → String
  | .unreadable => "failed to read config file: not a readable text"
  | .malformed => "failed to parse config: no settings"
  | .noVersion => "invalid config: min_version must be at least 1"
  | .inverted least greatest =>
    "invalid config: min_version " ++ least.toNat.repr ++ " is greater than max_version "
      ++ greatest.toNat.repr

namespace Settings

/-- The range of supported versions. -/
def versions (s : Settings) : VersionRange := { least := s.minVersion, greatest := s.maxVersion }

/-- Refuses a range of versions that starts at zero or is inverted. -/
def validate (s : Settings) : Except SettingsError Unit :=
  if s.minVersion = 0 then .error .noVersion
  else if s.maxVersion < s.minVersion then .error (.inverted s.minVersion s.maxVersion)
  else .ok ()

end Settings

end DirectShare
