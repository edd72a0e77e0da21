/-!
# Failures with files

What is done with files fails in two ways: files cannot be read or written, or an archive cannot be
understood.

A `FileError` says which of the two happened, and `FileError.message` says it to the owner of the
device.
-/

namespace DirectShare

/-- Why reading, packing or unpacking files stops. -/
inductive FileError where
  /-- A file is missing, cannot be created, or does not have the bytes that its checksum promises. -/
  | storage
  /-- Bytes are no archive, or an entry cannot be put there or is locked or packed in an unknown way. -/
  | archive
deriving DecidableEq, Repr

/-- The message for the owner of the device. -/
def FileError.message : FileError → String
  | .storage => "I/O error: a file is missing or damaged"
  | .archive => "archive error: not an archive that can be read"

end DirectShare
