import DirectShare.Archive.Entry
import DirectShare.FileError
import DirectShare.Folder

/-!
# Extracting archives

A received archive is unpacked into a folder, entry after entry. Folders and entries whose path is not
safe are passed over. Each file gets a name that is not taken, so nothing that was there is lost. What was
written before a failure stays.

An `Extraction` is an archive in the middle of unpacking, `Received` what the owner is told of a
file, and `extract` goes through all entries.
-/

namespace DirectShare.Archive

/-- What the owner is told of an unpacked file. -/
structure Received where
  /-- The name that the sender gave it. -/
  name : String
  /-- The name that it has in the folder. -/
  path : String
  /-- The number of bytes. -/
  size : Nat
deriving DecidableEq, Repr

/-- An archive in the middle of unpacking. -/
structure Extraction where
  folder : Folder
  /-- The files so far. -/
  received : List Received := []
  /-- The number of bytes of all files up to each. -/
  progress : List Nat := []
deriving DecidableEq, Repr

/-- The number of bytes of the files so far. -/
def Extraction.written (x : Extraction) : Nat := x.received.foldl (fun n r => n + r.size) 0

/-- Steps of unpacking, which keep what was written where they stop. -/
abbrev Extractor := EStateM FileError Extraction

/-- Writes a file under a name that is not taken, and tells about it if it is intact. -/
def writeFile (name : String) (u : Unpacked) : Extractor Unit := do
  let x ← get
  let path := x.folder.freeName name
  match x.folder.create path u.data with
  | none => throw .storage
  | some folder =>
    set { x with folder }
    if u.intact then
      let r : Received := { name, path, size := u.data.length }
      set { folder, received := x.received ++ [r], progress := x.progress ++ [x.written + r.size] : Extraction }
    else throw .storage

/-- Unpacks an entry. -/
def extractEntry (e : Entry) : Extractor Unit :=
  match e.content with
  | none => throw .archive
  | some u =>
    if isFolder e.path then return
    else match fileName? e.path with
      | none => return
      | some name => writeFile name u

/-- Unpacks an archive. -/
def extract (file : Bytes) : Extractor Unit :=
  match entries? file with
  | none => throw .archive
  | some es => es.forM extractEntry

end DirectShare.Archive
