import DirectShare.Bytes

/-!
# UUIDs

Numbers of 128 bits that name the services of a device and the tasks of a sender. They are written
in hexadecimal digits, with hyphens between five groups.

`Uuid.random` makes a UUID of a random number by fixing its version and its variant, and `Uuid.text`
writes it.
-/

namespace DirectShare

/-- A number of 128 bits. -/
abbrev Uuid := BitVec 128

namespace Uuid

/-- The UUID that is made from a random number: the four bits for its version and the two bits for
its variant are fixed. -/
def random (n : Uuid) : Uuid :=
  n &&& ~~~0x0000_0000_0000_f000_c000_0000_0000_0000#128 ||| 0x0000_0000_0000_4000_8000_0000_0000_0000#128

/-- The hexadecimal digits of a UUID. -/
def digits (u : Uuid) : List Char :=
  (Bytes.ofNatBE 16 u.toNat).flatMap fun b => [Nat.digitChar (b.toNat / 16), Nat.digitChar (b.toNat % 16)]

/-- The written UUID. -/
def text (u : Uuid) : String :=
  let ds := digits u
  let group (start length : Nat) : String := String.ofList ((ds.drop start).take length)
  "-".intercalate [group 0 8, group 8 4, group 12 4, group 16 4, group 20 12]

example : text (random 0) = "00000000-0000-4000-8000-000000000000" := by decide +kernel

end Uuid

end DirectShare
