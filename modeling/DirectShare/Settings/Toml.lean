import DirectShare.Settings.Basic
import DirectShare.Toml.Document
import DirectShare.Text.Utf8

/-!
# Settings in TOML

Settings are written as a TOML document. What it does not give has its usual value, and what is no
setting is passed over.

`Settings.ofToml` reads settings from a text, and `Settings.ofFile` from the bytes of a file.
-/

namespace DirectShare.Settings

open Toml (Value Members)

/-- The value of a setting, or the usual one if it is not given. -/
def setting {α : Type} (ms : Members) (name : String) (usual : α) (read : Value → Option α) : Option α :=
  match ms.lookup name with
  | none => some usual
  | some v => read v

/-- The text that a value stands for. -/
def string? : Value → Option String
  | .string s => some s
  | _ => none

/-- The truth value that a value stands for. -/
def bool? : Value → Option Bool
  | .bool b => some b
  | _ => none

/-- The natural number below a bound that a value stands for. -/
def natBelow? (bound : Nat) : Value → Option Nat
  | .integer (.ofNat n) => if n < bound then some n else none
  | _ => none

/-- The number of 32 bits that a value stands for. -/
def uint32? (v : Value) : Option UInt32 := (natBelow? UInt32.size v).map UInt32.ofNat

/-- The number of 64 bits that a value stands for. -/
def uint64? (v : Value) : Option UInt64 := (natBelow? UInt64.size v).map UInt64.ofNat

/-- Whether a value has no parts. -/
def isEmpty : Value → Bool
  | .array [] | .tables [] | .table _ [] => true
  | _ => false

/-- The brand that a value stands for: its word, or its word as the name of the only member of a
table, which must be empty. -/
def brand? : Value → Option Brand
  | .string s => Brand.ofWord? s
  | .table _ [(word, v)] => if isEmpty v then Brand.ofWord? word else none
  | _ => none

/-- The settings that the members of a document give, with the usual settings for the rest. -/
def ofMembers (usual : Settings) (ms : Members) : Option Settings := do
  let deviceName ← setting ms "device_name" usual.deviceName string?
  let brand ← setting ms "brand_id" usual.brand brand?
  let macAddress ← setting ms "mac_address" usual.macAddress string?
  let minVersion ← setting ms "min_version" usual.minVersion uint32?
  let maxVersion ← setting ms "max_version" usual.maxVersion uint32?
  let encryption ← setting ms "encryption" usual.encryption bool?
  let supports5GHz ← setting ms "supports_5ghz" usual.supports5GHz bool?
  let autoAccept ← setting ms "auto_accept" usual.autoAccept bool?
  let threadLimit ← setting ms "thread_limit" usual.threadLimit uint32?
  let taskGrace ← setting ms "task_grace_secs" usual.taskGrace uint64?
  let sessionLifetime ← setting ms "session_lifetime_secs" usual.sessionLifetime uint64?
  return { deviceName, brand, macAddress, minVersion, maxVersion, encryption, supports5GHz, autoAccept,
           threadLimit, taskGrace, sessionLifetime }

/-- The settings that a text gives, with the usual settings for the rest. -/
def ofToml (usual : Settings) (text : String) : Except SettingsError Settings :=
  match (Toml.parse text).bind (ofMembers usual) with
  | none => .error .malformed
  | some s => s.validate.map fun _ => s

/-- The settings in a file with the given bytes, or in a file that does not exist. -/
def ofFile (usual : Settings) (content : Option Bytes) : Except SettingsError Settings :=
  match content.bind Utf8.decode with
  | none => .error .unreadable
  | some text => ofToml usual text

end DirectShare.Settings
