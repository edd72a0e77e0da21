import DirectShare.FileError
import DirectShare.Task.Basic
import DirectShare.Task.MediaType

/-!
# Describing files on disk

Files on disk enter a task by their paths: their names are the last components, their sizes come from the
disk, and their media types are guessed.

`SharedFile.describe` describes the file at one path, and `describe` those at several; it fails with
the first path that cannot be read.
-/

namespace DirectShare

/-- The name of a file whose path does not end in one. -/
def SharedFile.noName : String := "unknown"

/-- The file with a path, on a disk that gives sizes. -/
def SharedFile.describe (disk : String → Option UInt64) (path : String) : Except FileError SharedFile :=
  match disk path with
  | none => .error .storage
  | some size =>
    let name := ((FileName.ofPath? path.toList).map String.ofList).getD noName
    .ok (SharedFile.ofPath name size (MediaType.ofName name) path)

/-- The files with the given paths, if none is missing. -/
def describe (disk : String → Option UInt64) (paths : List String) : Except FileError (List SharedFile) :=
  paths.mapM (SharedFile.describe disk)

end DirectShare
