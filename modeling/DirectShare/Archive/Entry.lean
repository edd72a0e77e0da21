import DirectShare.Archive.Deflate.Inflate
import DirectShare.Archive.Listing
import DirectShare.Archive.Name
import DirectShare.Archive.Place

/-!
# Entries of an archive

The entries of an archive in the order of its directory. Of two entries with one path the second
takes the place of the first.

An `Entry` has its path and, unless it is locked or packed in an unknown way, what unpacking it
gives (`Unpacked`). `entries?` gives the entries of an archive.
-/

namespace DirectShare.Archive

/-- What unpacking an entry gives. -/
structure Unpacked where
  /-- The bytes that come out. -/
  data : Bytes
  /-- Whether these are all bytes and have the right checksum. -/
  intact : Bool
deriving DecidableEq, Repr

/-- An entry of an archive. -/
structure Entry where
  path : String
  /-- What unpacking gives, unless the entry is locked or packed in an unknown way. -/
  content : Option Unpacked
deriving DecidableEq, Repr

/-- The way of packing that needs a key to tell how the entry is packed. -/
def keyedMethod : UInt16 := 99

/-- What unpacking gives, if the entry is not locked and the way of packing is known. -/
def unpack (r : DirectoryRecord) (packed : Bytes) : Option Unpacked :=
  if r.flags &&& 1 ≠ 0 then none
  else if r.method = 0 then some { data := packed, intact := checksum packed = r.checksum }
  else if r.method = 8 then
    let u := Deflate.inflate packed
    some { data := u.data, intact := u.whole ∧ checksum u.data = r.checksum }
  else none

/-- The entry that is listed in the directory in a place. Its record must be where the listing tells,
and its bytes must start before the directory. -/
def Listing.entry? (l : Listing) (file : Bytes) (place : DirectoryPlace) : Option Entry := do
  let e ← Extent.ofListing? l
  guard (l.record.method ≠ keyedMethod)
  let start := place.shift + e.offset
  let r ← readAt file start FileRecord.read
  let dataStart := start + FileRecord.width + r.nameLength.toNat + r.furtherLength.toNat
  guard (dataStart ≤ place.start)
  return { path := entryName e.utf8 e.path,
           content := unpack l.record ((file.drop dataStart).take e.packedSize) }

/-- Puts an entry behind others, or in the place of one with its path. -/
def insertEntry (es : List Entry) (e : Entry) : List Entry :=
  if es.any (·.path = e.path) then es.map fun x => if x.path = e.path then e else x else es ++ [e]

/-- The entries of the directory in a place. -/
def entriesAt? (file : Bytes) (p : DirectoryPlace) : Option (List Entry) := do
  let ls ← readAt file p.start (listings p.count)
  return (← ls.mapM fun l => l.entry? file p).foldl insertEntry []

/-- The entries of an archive: those of the directory to which the last end record leads that leads to
one. -/
def entries? (file : Bytes) : Option (List Entry) :=
  (occurrences EndRecord.signature file).findSome? fun e =>
    (directoryPlace? file e).bind (entriesAt? file)

end DirectShare.Archive
