import DirectShare.Archive.Build

/-!
# Finding the directory of an archive

An archive is read from its end. Something that looks like an end record tells where the directory
is. Other bytes may stand before the archive and behind it: offsets are relative to the start of the
archive, which the first record of the directory gives away.

`occurrences` lists the places of a pattern, and `directoryPlace?` gives the `DirectoryPlace` to
which the end record in one of them leads.
-/

namespace DirectShare.Archive

/-- Where a directory is. -/
structure DirectoryPlace where
  /-- The number of bytes before the archive. -/
  shift : Nat
  /-- The offset of the directory. -/
  offset : Nat
  /-- The number of its records. -/
  count : Nat
deriving DecidableEq, Repr

/-- Where the directory starts. -/
def DirectoryPlace.start (p : DirectoryPlace) : Nat := p.shift + p.offset

/-- The places in which a pattern occurs, the last first. -/
def occurrences (pattern bs : Bytes) : List Nat := search 0 bs []
where
  /-- Goes through the bytes from the given place on. -/
  search : Nat → Bytes → List Nat → List Nat
    | _, [], found => found
    | i, b :: bs, found => search (i + 1) bs (if pattern.isPrefixOf (b :: bs) then i :: found else found)

/-- The places of a pattern from `first` on and before `limit`, in order. -/
def occurrencesWithin (pattern bs : Bytes) (first limit : Nat) : List Nat :=
  ((occurrences pattern bs).filter fun p => first ≤ p ∧ p < limit).reverse

/-- What a reader gives at a place. -/
def readAt {α : Type} (file : Bytes) (place : Nat) (r : Reader α) : Option α :=
  (r (file.drop place)).map (·.1)

/-- The locator before an end record that has no room for its numbers. -/
def wideLocator? (file : Bytes) (place : Nat) (r : EndRecord) : Option WideLocator :=
  if (r.count.toNat = wideCount ∨ r.directoryOffset.toNat = wide) ∧ WideLocator.width ≤ place then
    readAt file (place - WideLocator.width) WideLocator.read
  else none

/-- The first wide end record that fills the space before its locator, with its place. -/
def wideEnd? (file : Bytes) (limit : Nat) (locator : WideLocator) : Option (Nat × WideEndRecord) :=
  (occurrencesWithin WideEndRecord.signature file locator.endOffset.toNat limit).findSome? fun place => do
    let r ← readAt file place WideEndRecord.read
    guard (WideEndRecord.width ≤ r.length.toNat + 12 ∧ r.length.toNat + 12 = limit - place)
    guard (r.directoryDisk = locator.directoryDisk)
    guard (r.count.toNat * DirectoryRecord.width + r.directoryOffset.toNat ≤ place)
    return (place, r)

/-- Where a wide end record behind the given locator tells the directory to be. -/
def widePlace? (file : Bytes) (limit : Nat) (locator : WideLocator) : Option DirectoryPlace := do
  guard (locator.endOffset.toNat < limit ∧ locator.disks ≤ 1)
  let (place, r) ← wideEnd? file limit locator
  guard (r.countHere ≤ r.count ∧ r.version ≤ r.writer ∧ r.disk = r.directoryDisk)
  return { shift := place - locator.endOffset.toNat, offset := r.directoryOffset.toNat,
           count := r.count.toNat }

/-- Where an end record in the given place tells the directory to be. -/
def narrowPlace? (file : Bytes) (place : Nat) (r : EndRecord) : Option DirectoryPlace := do
  let offset := r.directoryOffset.toNat
  guard (r.count = 0 ∨ offset < place)
  let start ← if r.count = 0 then some (max place offset)
    else (occurrencesWithin DirectoryRecord.signature file offset place).head?
  guard (r.disk = r.directoryDisk)
  return { shift := start - offset, offset, count := r.countHere.toNat }

/-- Where the end record in a place tells the directory to be. -/
def directoryPlace? (file : Bytes) (place : Nat) : Option DirectoryPlace := do
  let r ← readAt file place EndRecord.read
  guard (place + EndRecord.width + r.commentLength.toNat ≤ file.length)
  match wideLocator? file place r with
  | some locator => widePlace? file (place - WideLocator.width) locator
  | none => narrowPlace? file place r

end DirectShare.Archive
