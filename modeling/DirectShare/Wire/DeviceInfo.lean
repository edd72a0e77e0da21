import DirectShare.Json.Record
import DirectShare.Wire.Capability
import DirectShare.Wire.Error

/-!
# Device descriptions

What a receiver publishes over the radio for senders to read.

A `DeviceInfo` is written as a record, and `DeviceInfo.decode` reads it from bytes.
-/

namespace DirectShare

/-- What a receiver publishes about itself. -/
structure DeviceInfo where
  /-- A state that no side looks at. -/
  state : Int32 := 0
  /-- The key for sealing credentials to the receiver, as Base64 text. -/
  key : Option String := none
  /-- The address of the receiver's Wi-Fi device. -/
  mac : String
  /-- The greatest protocol version of the receiver. -/
  catShare : Option UInt32 := none
  /-- The name of the receiver. -/
  name : Option String := none
  /-- The number of the receiver's brand. -/
  brand : Option UInt8 := none
  /-- The least protocol version of the receiver. -/
  minVersion : Option UInt32 := none
  /-- The capability bits. -/
  capabilities : UInt32 := 0
deriving DecidableEq, Repr

namespace DeviceInfo

/-- The description of a receiver of which only the address and a key are known. -/
def ofAddress (mac : String) (key : Option String) : DeviceInfo :=
  { mac, key, catShare := some 1 }

open Json in
instance : Json.Record DeviceInfo where
  fields info :=
    [("state", ofInt info.state.toInt)] ++ ifSome "key" .string info.key
      ++ [("mac", .string info.mac)]
      ++ ifSome "catShare" (ofNat ·.toNat) info.catShare
      ++ ifSome "name" .string info.name
      ++ ifSome "brand" (ofNat ·.toNat) info.brand
      ++ ifSome "minVersion" (ofNat ·.toNat) info.minVersion
      ++ [("capabilities", ofNat info.capabilities.toNat)]
  ofTree? t :=
    match t.fields? ["state", "key", "mac", "catShare", "name", "brand", "minVersion", "capabilities"] with
    | some [state, key, mac, catShare, name, brand, minVersion, capabilities] => do
      let state ← Field.withDefault 0 Tree.int32? state
      let key ← Field.optional Tree.string? key
      let mac ← Field.required Tree.string? mac
      let catShare ← Field.optional Tree.uint32? catShare
      let name ← Field.optional Tree.string? name
      let brand ← Field.optional Tree.uint8? brand
      let minVersion ← Field.optional Tree.uint32? minVersion
      let capabilities ← Field.withDefault 0 Tree.uint32? capabilities
      return { state, key, mac, catShare, name, brand, minVersion, capabilities }
    | _ => none

/-- The description that bytes stand for. -/
def decode (bs : Bytes) : Except DecodeError DeviceInfo :=
  match Json.Record.ofBytes? bs with
  | some info => .ok info
  | none => .error .deviceInfo

/-- Whether the receiver can open sealed credentials. -/
def supportsEncryption (info : DeviceInfo) : Bool := Capability.has info.capabilities Capability.encryption

/-- Whether the receiver can join networks in the 5 GHz band. -/
def supports5GHz (info : DeviceInfo) : Bool := Capability.has info.capabilities Capability.wifi5GHz

end DeviceInfo

end DirectShare
