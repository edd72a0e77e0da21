import DirectShare.Archive.Field

/-!
# Records of an archive

An archive holds, in this order, each file behind a record of its own, the directory, which has a
record for each file, and a record that tells where the directory is. If the archive is too large
for the numbers in that last record, a wide form of it stands before it, together with a locator that
tells where the wide form is.

A `FileRecord` stands before a file, and a `DirectoryRecord` for it in the directory. The records
behind the directory are the `EndRecord` and, if needed, the `WideEndRecord` and the `WideLocator`.
Each has a fixed width and is read back as it was written.
-/

namespace DirectShare.Archive

/-- The record before a file, without the name and the further fields that follow it. -/
structure FileRecord where
  /-- The version of the format that a reader needs, times ten. -/
  version : UInt16
  /-- Flags: bit 0 for a locked file, bit 11 for a name in UTF-8. -/
  flags : UInt16
  /-- How the file is packed: 0 not at all, 8 deflated. -/
  method : UInt16
  /-- The time of the last change. -/
  time : UInt16
  /-- The day of the last change. -/
  date : UInt16
  /-- The checksum of the file. -/
  checksum : UInt32
  /-- The number of bytes in the archive. -/
  packedSize : UInt32
  /-- The number of bytes of the file. -/
  size : UInt32
  /-- The number of bytes of the name. -/
  nameLength : UInt16
  /-- The number of bytes of the further fields. -/
  furtherLength : UInt16
deriving DecidableEq, Repr

/-- The record of a file in the directory, without what follows it: the name, the further fields
and the comment. -/
structure DirectoryRecord where
  /-- The version of the format and the system of the writer. -/
  writer : UInt16
  /-- The version of the format that a reader needs, times ten. -/
  version : UInt16
  /-- Flags: bit 0 for a locked file, bit 11 for a name in UTF-8. -/
  flags : UInt16
  /-- How the file is packed: 0 not at all, 8 deflated. -/
  method : UInt16
  /-- The time of the last change. -/
  time : UInt16
  /-- The day of the last change. -/
  date : UInt16
  /-- The checksum of the file. -/
  checksum : UInt32
  /-- The number of bytes in the archive. -/
  packedSize : UInt32
  /-- The number of bytes of the file. -/
  size : UInt32
  /-- The number of bytes of the name. -/
  nameLength : UInt16
  /-- The number of bytes of the further fields. -/
  furtherLength : UInt16
  /-- The number of bytes of the comment. -/
  commentLength : UInt16
  /-- The disk on which the file starts. -/
  disk : UInt16
  /-- Whether the file is a text. -/
  internalAttributes : UInt16
  /-- The kind of the file and the rights on it. -/
  externalAttributes : UInt32
  /-- Where the record before the file is. -/
  offset : UInt32
deriving DecidableEq, Repr

/-- The last record, without the comment that follows it. -/
structure EndRecord where
  /-- The number of this disk. -/
  disk : UInt16
  /-- The disk on which the directory starts. -/
  directoryDisk : UInt16
  /-- The number of directory records on this disk. -/
  countHere : UInt16
  /-- The number of directory records. -/
  count : UInt16
  /-- The number of bytes of the directory. -/
  directorySize : UInt32
  /-- Where the directory is. -/
  directoryOffset : UInt32
  /-- The number of bytes of the comment. -/
  commentLength : UInt16
deriving DecidableEq, Repr

/-- The wide form of the last record. -/
structure WideEndRecord where
  /-- The number of bytes of this record after this number. -/
  length : UInt64
  /-- The version of the format and the system of the writer. -/
  writer : UInt16
  /-- The version of the format that a reader needs, times ten. -/
  version : UInt16
  /-- The number of this disk. -/
  disk : UInt32
  /-- The disk on which the directory starts. -/
  directoryDisk : UInt32
  /-- The number of directory records on this disk. -/
  countHere : UInt64
  /-- The number of directory records. -/
  count : UInt64
  /-- The number of bytes of the directory. -/
  directorySize : UInt64
  /-- Where the directory is. -/
  directoryOffset : UInt64
deriving DecidableEq, Repr

/-- The record between the wide form of the last record and the last record. -/
structure WideLocator where
  /-- The disk on which the directory starts. -/
  directoryDisk : UInt32
  /-- Where the wide form of the last record is. -/
  endOffset : UInt64
  /-- The number of disks. -/
  disks : UInt32
deriving DecidableEq, Repr

namespace FileRecord

/-- The bytes with which the record starts. -/
def signature : Bytes := [0x50, 0x4B, 0x03, 0x04]

/-- The number of bytes of the record. -/
def width : Nat := 30

/-- The bytes of the record. -/
def encode (r : FileRecord) : Bytes :=
  signature ++ (number16 r.version ++ (number16 r.flags ++ (number16 r.method ++ (number16 r.time
    ++ (number16 r.date ++ (number32 r.checksum ++ (number32 r.packedSize ++ (number32 r.size
    ++ (number16 r.nameLength ++ number16 r.furtherLength)))))))))

/-- Reads the record. -/
def read : Reader FileRecord := do
  Reader.expect signature
  return {
    version := ← Reader.number16
    flags := ← Reader.number16
    method := ← Reader.number16
    time := ← Reader.number16
    date := ← Reader.number16
    checksum := ← Reader.number32
    packedSize := ← Reader.number32
    size := ← Reader.number32
    nameLength := ← Reader.number16
    furtherLength := ← Reader.number16 }

/-- The record before a file has its fixed width. -/
@[simp] theorem length_encode (r : FileRecord) : r.encode.length = width := by
  simp only [encode, signature, width, List.length_append, List.length_cons, List.length_nil,
    length_number16, length_number32]

/-- The record is read back, whatever follows it. -/
theorem read_append (r : FileRecord) (rest : Bytes) : read (r.encode ++ rest) = some (r, rest) := by
  simp only [read, encode, List.append_assoc, Reader.bind_expect, Reader.bind_number16, Reader.bind_number32,
    Reader.pure_apply]

end FileRecord

namespace DirectoryRecord

/-- The bytes with which the record starts. -/
def signature : Bytes := [0x50, 0x4B, 0x01, 0x02]

/-- The number of bytes of the record. -/
def width : Nat := 46

/-- The bytes of the record. -/
def encode (r : DirectoryRecord) : Bytes :=
  signature ++ (number16 r.writer ++ (number16 r.version ++ (number16 r.flags ++ (number16 r.method
    ++ (number16 r.time ++ (number16 r.date ++ (number32 r.checksum ++ (number32 r.packedSize
    ++ (number32 r.size ++ (number16 r.nameLength ++ (number16 r.furtherLength
    ++ (number16 r.commentLength ++ (number16 r.disk ++ (number16 r.internalAttributes
    ++ (number32 r.externalAttributes ++ number32 r.offset)))))))))))))))

/-- Reads the record. -/
def read : Reader DirectoryRecord := do
  Reader.expect signature
  return {
    writer := ← Reader.number16
    version := ← Reader.number16
    flags := ← Reader.number16
    method := ← Reader.number16
    time := ← Reader.number16
    date := ← Reader.number16
    checksum := ← Reader.number32
    packedSize := ← Reader.number32
    size := ← Reader.number32
    nameLength := ← Reader.number16
    furtherLength := ← Reader.number16
    commentLength := ← Reader.number16
    disk := ← Reader.number16
    internalAttributes := ← Reader.number16
    externalAttributes := ← Reader.number32
    offset := ← Reader.number32 }

/-- The record of a file in the directory has its fixed width. -/
@[simp] theorem length_encode (r : DirectoryRecord) : r.encode.length = width := by
  simp only [encode, signature, width, List.length_append, List.length_cons, List.length_nil,
    length_number16, length_number32]

/-- The record is read back, whatever follows it. -/
theorem read_append (r : DirectoryRecord) (rest : Bytes) :
    read (r.encode ++ rest) = some (r, rest) := by
  simp only [read, encode, List.append_assoc, Reader.bind_expect, Reader.bind_number16, Reader.bind_number32,
    Reader.pure_apply]

end DirectoryRecord

namespace EndRecord

/-- The bytes with which the record starts. -/
def signature : Bytes := [0x50, 0x4B, 0x05, 0x06]

/-- The number of bytes of the record. -/
def width : Nat := 22

/-- The bytes of the record. -/
def encode (r : EndRecord) : Bytes :=
  signature ++ (number16 r.disk ++ (number16 r.directoryDisk ++ (number16 r.countHere
    ++ (number16 r.count ++ (number32 r.directorySize ++ (number32 r.directoryOffset
    ++ number16 r.commentLength))))))

/-- Reads the record. -/
def read : Reader EndRecord := do
  Reader.expect signature
  return {
    disk := ← Reader.number16
    directoryDisk := ← Reader.number16
    countHere := ← Reader.number16
    count := ← Reader.number16
    directorySize := ← Reader.number32
    directoryOffset := ← Reader.number32
    commentLength := ← Reader.number16 }

/-- The end record has its fixed width. -/
@[simp] theorem length_encode (r : EndRecord) : r.encode.length = width := by
  simp only [encode, signature, width, List.length_append, List.length_cons, List.length_nil,
    length_number16, length_number32]

/-- The record is read back, whatever follows it. -/
theorem read_append (r : EndRecord) (rest : Bytes) : read (r.encode ++ rest) = some (r, rest) := by
  simp only [read, encode, List.append_assoc, Reader.bind_expect, Reader.bind_number16, Reader.bind_number32,
    Reader.pure_apply]

end EndRecord

namespace WideEndRecord

/-- The bytes with which the record starts. -/
def signature : Bytes := [0x50, 0x4B, 0x06, 0x06]

/-- The number of bytes of the record. -/
def width : Nat := 56

/-- The bytes of the record. -/
def encode (r : WideEndRecord) : Bytes :=
  signature ++ (number64 r.length ++ (number16 r.writer ++ (number16 r.version ++ (number32 r.disk
    ++ (number32 r.directoryDisk ++ (number64 r.countHere ++ (number64 r.count
    ++ (number64 r.directorySize ++ number64 r.directoryOffset))))))))

/-- Reads the record. -/
def read : Reader WideEndRecord := do
  Reader.expect signature
  return {
    length := ← Reader.number64
    writer := ← Reader.number16
    version := ← Reader.number16
    disk := ← Reader.number32
    directoryDisk := ← Reader.number32
    countHere := ← Reader.number64
    count := ← Reader.number64
    directorySize := ← Reader.number64
    directoryOffset := ← Reader.number64 }

/-- The wide end record has its fixed width. -/
@[simp] theorem length_encode (r : WideEndRecord) : r.encode.length = width := by
  simp only [encode, signature, width, List.length_append, List.length_cons, List.length_nil, length_number16,
    length_number32, length_number64]

/-- The record is read back, whatever follows it. -/
theorem read_append (r : WideEndRecord) (rest : Bytes) :
    read (r.encode ++ rest) = some (r, rest) := by
  simp only [read, encode, List.append_assoc, Reader.bind_expect, Reader.bind_number16, Reader.bind_number32,
    Reader.bind_number64, Reader.pure_apply]

end WideEndRecord

namespace WideLocator

/-- The bytes with which the record starts. -/
def signature : Bytes := [0x50, 0x4B, 0x06, 0x07]

/-- The number of bytes of the record. -/
def width : Nat := 20

/-- The bytes of the record. -/
def encode (r : WideLocator) : Bytes :=
  signature ++ (number32 r.directoryDisk ++ (number64 r.endOffset ++ number32 r.disks))

/-- Reads the record. -/
def read : Reader WideLocator := do
  Reader.expect signature
  return {
    directoryDisk := ← Reader.number32
    endOffset := ← Reader.number64
    disks := ← Reader.number32 }

/-- The locator has its fixed width. -/
@[simp] theorem length_encode (r : WideLocator) : r.encode.length = width := by
  simp only [encode, signature, width, List.length_append, List.length_cons, List.length_nil,
    length_number32, length_number64]

/-- The record is read back, whatever follows it. -/
theorem read_append (r : WideLocator) (rest : Bytes) :
    read (r.encode ++ rest) = some (r, rest) := by
  simp only [read, encode, List.append_assoc, Reader.bind_expect, Reader.bind_number32, Reader.bind_number64,
    Reader.pure_apply]

end WideLocator

end DirectShare.Archive
