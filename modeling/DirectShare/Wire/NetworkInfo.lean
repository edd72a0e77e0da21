import DirectShare.Json.Record
import DirectShare.Wire.Error

/-!
# Network descriptions

What a sender writes over the radio for a receiver: the credentials of its network and the port of
its service. With a key in it, the name, the password and the address of the network are sealed.

A `NetworkInfo` is written as a record, and `NetworkInfo.decode` reads it from bytes. Its port is
any number; `NetworkInfo.servicePort?` is the port if it is one.
-/

namespace DirectShare

/-- The network of a sender. -/
structure NetworkInfo where
  /-- The session name of the sender. -/
  id : Option String := none
  /-- The name of the network. -/
  ssid : String
  /-- The password of the network. -/
  psk : String
  /-- The address of the sender's Wi-Fi device. -/
  mac : String
  /-- The port of the sender's service, as written. -/
  port : Int32
  /-- The key for opening sealed credentials, as Base64 text. -/
  key : Option String := none
  /-- A protocol version that no side looks at. -/
  catShare : Option Int32 := none
deriving DecidableEq, Repr

namespace NetworkInfo

open Json in
instance : Json.Record NetworkInfo where
  fields info :=
    ifSome "id" .string info.id
      ++ [("ssid", .string info.ssid), ("psk", .string info.psk), ("mac", .string info.mac),
        ("port", ofInt info.port.toInt)]
      ++ ifSome "key" .string info.key
      ++ ifSome "catShare" (ofInt ·.toInt) info.catShare
  ofTree? t :=
    match t.fields? ["id", "ssid", "psk", "mac", "port", "key", "catShare"] with
    | some [id, ssid, psk, mac, port, key, catShare] => do
      let id ← Field.optional Tree.string? id
      let ssid ← Field.required Tree.string? ssid
      let psk ← Field.required Tree.string? psk
      let mac ← Field.required Tree.string? mac
      let port ← Field.required Tree.int32? port
      let key ← Field.optional Tree.string? key
      let catShare ← Field.optional Tree.int32? catShare
      return { id, ssid, psk, mac, port, key, catShare }
    | _ => none

/-- The description that bytes stand for. -/
def decode (bs : Bytes) : Except DecodeError NetworkInfo :=
  match Json.Record.ofBytes? bs with
  | some info => .ok info
  | none => .error .networkInfo

/-- A plain description. -/
def plain (ssid psk mac : String) (port : Int32) : NetworkInfo :=
  { ssid, psk, mac, port, catShare := some 1 }

/-- A description with sealed credentials, and the key for opening them. -/
def sealed (id ssid psk mac : String) (port : Int32) (key : String) : NetworkInfo :=
  { id := some id, ssid, psk, mac, port, key := some key, catShare := some 1 }

/-- Whether the credentials are sealed. -/
def isSealed (info : NetworkInfo) : Bool := info.key.isSome

/-- The port, if it is a port number other than zero. -/
def servicePort? (info : NetworkInfo) : Option UInt16 :=
  if 0 < info.port.toInt ∧ info.port.toInt < 65536 then some (UInt16.ofNat info.port.toInt.toNat)
  else none

instance : Inspect NetworkInfo where
  inspect info :=
    Inspect.record "P2pInfo"
      [("id", inspect info.id), ("ssid", inspect info.ssid), ("psk", inspect info.psk),
        ("mac", inspect info.mac), ("port", inspect info.port), ("key", inspect info.key),
        ("cat_share", inspect info.catShare)]

end NetworkInfo

end DirectShare
