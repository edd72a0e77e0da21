import DirectShare.Archive.Build

/-!
# Listings

The directory of an archive lists its entries. A record with fixed numbers is followed by the path
and by further fields, which hold numbers that did not fit into the record, or a better form of the
path. Fields of other kinds are passed over.

A `Listing` is a record with what follows it, and `listings` reads all of them. An `Extent` is what
the further fields make of the numbers of a record.
-/

namespace DirectShare.Archive

/-- A record of the directory with what follows it. -/
structure Listing where
  record : DirectoryRecord
  path : Bytes
  /-- The further fields. -/
  further : Bytes
deriving DecidableEq, Repr

/-- Reads a record of the directory with what follows it. -/
def Listing.read : Reader Listing := do
  let record ← DirectoryRecord.read
  let path ← Reader.take record.nameLength.toNat
  let further ← Reader.take record.furtherLength.toNat
  discard (Reader.take record.commentLength.toNat)
  return { record, path, further }

/-- Reads the given number of records with what follows them. -/
def listings : Nat → Reader (List Listing)
  | 0 => return []
  | n + 1 => do
    let l ← Listing.read
    return l :: (← listings n)

/-- What the directory tells of an entry. -/
structure Extent where
  path : Bytes
  /-- Whether the path is in UTF-8. -/
  utf8 : Bool
  /-- The number of bytes of the file. -/
  size : Nat
  /-- The number of bytes in the archive. -/
  packedSize : Nat
  /-- Where the record before the file is. -/
  offset : Nat
deriving DecidableEq, Repr

namespace Extent

/-- What a record of the directory tells without the further fields. -/
def ofListing (l : Listing) : Extent where
  path := l.path
  utf8 := l.record.flags &&& 0x0800 ≠ 0
  size := l.record.size.toNat
  packedSize := l.record.packedSize.toNat
  offset := l.record.offset.toNat

/-- The number of the field that holds the path in UTF-8. -/
def pathField : UInt16 := 0x7075

/-- Reads a number of eight bytes in place of one that did not fit, or if all are there. -/
def widen (length : UInt16) (n : Nat) (bs : Bytes) : Option (Nat × Bytes) :=
  if 24 ≤ length ∨ n = wide then (Reader.number64 bs).map fun (m, rest) => (m.toNat, rest)
  else some (n, bs)

/-- Takes the numbers that did not fit, and leaves what follows them; nothing follows numbers that are
cut short. -/
def widened (e : Extent) (length : UInt16) (bs : Bytes) : Extent × Option Bytes :=
  match widen length e.size bs with
  | none => (e, none)
  | some (size, bs) =>
    match widen length e.packedSize bs with
    | none => ({ e with size }, none)
    | some (packedSize, bs) =>
      match widen length e.offset bs with
      | none => ({ e with size, packedSize }, none)
      | some (offset, bs) => ({ e with size, packedSize, offset }, some bs)

/-- Takes the path from a field: a version, the checksum of the path so far, and the path in UTF-8. -/
def repath (e : Extent) (field : Bytes) : Option Extent := do
  let path := field.drop 5
  guard (5 ≤ field.length)
  guard (Bytes.toNatLE ((field.drop 1).take 4) = (checksum e.path).toNat)
  guard (Utf8.decode path).isSome
  return { e with path, utf8 := true }

/-- Takes a field of the given kind and length from the start of the bytes. The outer `none` is for a
field that makes the directory unreadable, the inner one for a field that is cut short. -/
def field (e : Extent) (kind length : UInt16) (bs : Bytes) : Option (Extent × Option Bytes) :=
  let rest := bs.drop length.toNat
  if kind = wideField then
    match e.widened length bs with
    | (e, none) => some (e, none)
    | (e, some left) => if bs.length - left.length ≤ length.toNat then some (e, some rest) else none
  else if kind = pathField then
    if bs.length < max 5 length.toNat then some (e, none)
    else (e.repath (bs.take length.toNat)).map fun e => (e, some rest)
  else some (e, some rest)

/-- Takes the fields one after the other. Each is four bytes long at least, and `fuel` is not less than
their number. -/
def withFields : (fuel : Nat) → Extent → Bytes → Option Extent
  | 0, e, _ => some e
  | fuel + 1, e, bs =>
    match (do return (← Reader.number16, ← Reader.number16) : Reader (UInt16 × UInt16)) bs with
    | none => some e
    | some ((kind, length), bs) =>
      match e.field kind length bs with
      | none => none
      | some (e, none) => some e
      | some (e, some rest) => withFields fuel e rest

/-- What the directory tells of an entry, if its further fields can be read. -/
def ofListing? (l : Listing) : Option Extent := withFields l.further.length (ofListing l) l.further

end Extent

end DirectShare.Archive
