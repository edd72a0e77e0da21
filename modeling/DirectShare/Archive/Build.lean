import DirectShare.Archive.Checksum
import DirectShare.FileError
import DirectShare.Archive.Record
import DirectShare.Task.Basic
import DirectShare.Text.Utf8

/-!
# Building archives

The files of a task travel in one archive. Each is put there as it is, under its number in the task
and its name, which makes the names unique. Records hold no time and the usual rights on a file.

`Stored` is what an archive holds of a file, `encode` writes the archive, and `build` reads the
files of a task from the disk or from memory first.
-/

namespace DirectShare.Archive

/-- A file in an archive. -/
structure Stored where
  path : Bytes
  data : Bytes
deriving DecidableEq, Repr

/-- The greatest number in four bytes, which stands for a number that is given elsewhere. -/
def wide : Nat := UInt32.size - 1

/-- The greatest number in two bytes, which stands for a number that is given elsewhere. -/
def wideCount : Nat := UInt16.size - 1

/-- The number of the field that holds what does not fit into four bytes. -/
def wideField : UInt16 := 1

/-- A number, or the sign that it is given elsewhere. -/
def narrow (n : Nat) : UInt32 := UInt32.ofNat (min n wide)

namespace Stored

/-- The day that stands for no day: the first of January 1980. -/
def noDate : UInt16 := 33

/-- The version of the format that suffices for files as they are. -/
def version : UInt16 := 10

/-- The version of the format, written by a system with the usual rights on files. -/
def writer : UInt16 := 0x030A

/-- A file that its owner may write and everyone may read. -/
def attributes : UInt32 := 0x81A40000

/-- The flags: whether the path is in more than ASCII. -/
def flags (f : Stored) : UInt16 := if f.path.all (· < 0x80) then 0 else 0x0800

/-- The record before the file. -/
def fileRecord (f : Stored) : FileRecord where
  version := version
  flags := f.flags
  method := 0
  time := 0
  date := noDate
  checksum := checksum f.data
  packedSize := narrow f.data.length
  size := narrow f.data.length
  nameLength := UInt16.ofNat f.path.length
  furtherLength := 0

/-- The file behind its record and path. -/
def encode (f : Stored) : Bytes := f.fileRecord.encode ++ (f.path ++ f.data)

/-- What does not fit into the directory record of a file at the given offset. -/
def wideNumbers (f : Stored) (offset : Nat) : List Nat :=
  [f.data.length, f.data.length, offset].filter (wide ≤ ·)

/-- The further fields of the directory record. -/
def further (f : Stored) (offset : Nat) : Bytes :=
  let ns := f.wideNumbers offset
  if ns.isEmpty then []
  else number16 wideField ++ (number16 (UInt16.ofNat (8 * ns.length))
    ++ ns.flatMap fun n => number64 (UInt64.ofNat n))

/-- The directory record of a file at the given offset. -/
def directoryRecord (f : Stored) (offset : Nat) : DirectoryRecord where
  writer := writer
  version := version
  flags := f.flags
  method := 0
  time := 0
  date := noDate
  checksum := checksum f.data
  packedSize := narrow f.data.length
  size := narrow f.data.length
  nameLength := UInt16.ofNat f.path.length
  furtherLength := UInt16.ofNat (f.further offset).length
  commentLength := 0
  disk := 0
  internalAttributes := 0
  externalAttributes := attributes
  offset := narrow offset

/-- The directory record with the path and the further fields. -/
def directoryEntry (f : Stored) (offset : Nat) : Bytes :=
  (f.directoryRecord offset).encode ++ (f.path ++ f.further offset)

/-- Refuses a file that is too large or whose path is too long for its record. -/
def check (f : Stored) : Except FileError Unit :=
  if wideCount < f.path.length then .error .archive
  else if wide < f.data.length then .error .storage
  else .ok ()

end Stored

/-- The files behind each other. -/
def fileSection (fs : List Stored) : Bytes := fs.flatMap Stored.encode

/-- The directory of files that start at the given offset. -/
def directory : (offset : Nat) → List Stored → Bytes
  | _, [] => []
  | offset, f :: fs => f.directoryEntry offset ++ directory (offset + f.encode.length) fs

/-- The wide form of the end record, and its locator. -/
def wideEnd (count offset size : Nat) : Bytes :=
  let record : WideEndRecord :=
    { length := UInt64.ofNat (WideEndRecord.width - 12), writer := Stored.version, version := Stored.version
      disk := 0, directoryDisk := 0, countHere := UInt64.ofNat count, count := UInt64.ofNat count
      directorySize := UInt64.ofNat size, directoryOffset := UInt64.ofNat offset }
  let locator : WideLocator := { directoryDisk := 0, endOffset := UInt64.ofNat (offset + size), disks := 1 }
  record.encode ++ locator.encode

/-- What follows a directory with the given number of records, offset and size. -/
def ending (count offset size : Nat) : Bytes :=
  let record : EndRecord :=
    { disk := 0, directoryDisk := 0, countHere := UInt16.ofNat (min count wideCount)
      count := UInt16.ofNat (min count wideCount), directorySize := narrow size
      directoryOffset := narrow offset, commentLength := 0 }
  (if wideCount < count ∨ wide < offset ∨ wide < size then wideEnd count offset size else [])
    ++ record.encode

/-- The bytes of an archive. -/
def encode (fs : List Stored) : Bytes :=
  let files := fileSection fs
  let records := directory 0 fs
  files ++ (records ++ ending fs.length files.length records.length)

/-- The bytes of a file of a task, which may be on disk. -/
def contentOf (disk : String → Option Bytes) : FileContent → Except FileError Bytes
  | .inline data => .ok data
  | .path p =>
    match disk p with
    | some data => .ok data
    | none => .error .storage

/-- The path in the archive of a file with the given number. -/
def storedPath (index : Nat) (name : String) : String := index.repr ++ "/" ++ name

/-- A file of a task as it stands in the archive. -/
def stored (disk : String → Option Bytes) (index : Nat) (file : SharedFile) :
    Except FileError Stored := do
  let path := Utf8.encode (storedPath index file.name)
  Stored.check { path, data := [] }
  let f : Stored := { path, data := ← contentOf disk file.content }
  f.check
  return f

/-- The archive of the files of a task, some of which are on disk. -/
def build (disk : String → Option Bytes) (files : List SharedFile) : Except FileError Bytes :=
  (files.zipIdx.mapM fun (file, index) => stored disk index file).map encode

end DirectShare.Archive
