import DirectShare.Bytes
import DirectShare.FileName

/-!
# Folders

The files of a folder, by name. A name that is taken gets a number.

`Folder.create` is the folder with one more file, and `Folder.freeName` the first name that is not
taken, for a file with the given name.
-/

namespace DirectShare

/-- The files of a folder, by name. -/
structure Folder where
  /-- The names, each once, with the bytes of the files. -/
  files : List (String × Bytes) := []
deriving DecidableEq, Repr

namespace Folder

/-- The bytes of the file with a name. -/
def find? (folder : Folder) (name : String) : Option Bytes := folder.files.lookup name

/-- Whether a name is taken. -/
def contains (folder : Folder) (name : String) : Bool := (folder.find? name).isSome

/-- The number of files. -/
def size (folder : Folder) : Nat := folder.files.length

/-- The greatest number of bytes of a name. -/
def greatestNameLength : Nat := 255

/-- The folder with a file under a name, in place of one that has the name already. There is none if
the name is too long. -/
def create (folder : Folder) (name : String) (data : Bytes) : Option Folder :=
  if name.utf8ByteSize ≤ greatestNameLength then
    some { files := folder.files.filter (·.1 ≠ name) ++ [(name, data)] }
  else none

/-- The name with a number. -/
def numbered (name : String) (n : Nat) : String := String.ofList (FileName.numbered name.toList n)

/-- The name itself if it is not taken, and else the name with the least number from one on that is not
taken. A folder cannot have taken more numbers than it has files. -/
def freeName (folder : Folder) (name : String) : String :=
  if folder.contains name then
    (((List.range' 1 (folder.size + 1)).map (numbered name)).find? fun n => !folder.contains n).getD name
  else name

end Folder

end DirectShare
