import DirectShare.Bytes
import DirectShare.Text.Inspect

/-!
# Tasks

A task is what a sender offers in one session: files, or a text, or both, under a name.

A `SharedFile` is on the disk or in memory, and has the size that it is announced with. Their sizes
are added up in 64 bits by `SharedTask.totalSize?`, which fails where a sum does not fit.
-/

namespace DirectShare

/-- Where the bytes of a file are. -/
inductive FileContent where
  /-- In a file on disk. -/
  | path (p : String)
  /-- In memory. -/
  | inline (data : Bytes)
deriving DecidableEq, Repr

/-- A file of a task. -/
structure SharedFile where
  /-- The name under which the file is sent. -/
  name : String
  /-- The number of its bytes. -/
  size : UInt64
  /-- The media type. -/
  mimeType : String
  /-- Where the bytes are. -/
  content : FileContent
deriving DecidableEq, Repr

namespace SharedFile

/-- A file with the given bytes. -/
def ofBytes (name mimeType : String) (data : Bytes) : SharedFile :=
  { name, size := UInt64.ofNat data.length, mimeType, content := .inline data }

/-- A file on disk with a known size. -/
def ofPath (name : String) (size : UInt64) (mimeType path : String) : SharedFile :=
  { name, size, mimeType, content := .path path }

end SharedFile

/-- What a sender offers in one session. -/
structure SharedTask where
  /-- The name of the task. -/
  id : String
  /-- The files, in the order of sending. -/
  files : List SharedFile := []
  text : Option String := none
deriving DecidableEq, Repr

/-- The size with that of one more file, unless their sum leaves the 64 bits. -/
def SharedFile.addTo? (n : UInt64) (file : SharedFile) : Option UInt64 :=
  if n.toNat + file.size.toNat < UInt64.size then some (n + file.size) else none

/-- The number of bytes of all files, unless one of the additions leaves the 64 bits. -/
def SharedTask.totalSize? (task : SharedTask) : Option UInt64 := task.files.foldlM SharedFile.addTo? 0

instance : Inspect FileContent where
  inspect
    | .path p => Inspect.variant "Path" (inspect p)
    | .inline data => Inspect.variant "Inline" (inspect data)

instance : Inspect SharedFile where
  inspect file :=
    Inspect.record "FileDescriptor"
      [("name", inspect file.name), ("size", inspect file.size), ("mime_type", inspect file.mimeType),
        ("content", inspect file.content)]

instance : Inspect SharedTask where
  inspect task :=
    Inspect.record "TransferTask"
      [("id", inspect task.id), ("files", inspect task.files), ("text", inspect task.text)]

end DirectShare
