import DirectShare.Task.Basic
import DirectShare.Wire.SendRequest

/-!
# The announcement of a task

What a sender tells about a task in its send request.

The size of a task is added up in 64 bits and may not fit, in which case there is nothing to
announce; so `SharedTask.announce` is given it.
-/

namespace DirectShare.SharedTask

/-- The number of announced files: a text without files counts as one. -/
def fileCount (task : SharedTask) : UInt32 :=
  if task.text.isSome ∧ task.files = [] then 1 else UInt32.ofNat task.files.length

/-- The type of all files, or `*/*` if they differ; a text without files is plain text. -/
def mimeType (task : SharedTask) : String :=
  match task.files with
  | [] => if task.text.isSome then "text/plain" else "*/*"
  | first :: rest => if rest.all (·.mimeType = first.mimeType) then first.mimeType else "*/*"

/-- The send request for a task of the given size, from a session and a device with the given names. -/
def announce (task : SharedTask) (totalSize : UInt64) (senderId senderName : String) : SendRequest :=
  { taskId := some task.id
    id := some task.id
    senderId := some senderId
    senderName
    fileName := (task.files.head?.map (·.name)).getD ""
    mimeType := task.mimeType
    fileCount := task.fileCount
    totalSize
    catShareText := task.text
    files := task.files.map fun file => { name := file.name, size := file.size } }

end DirectShare.SharedTask
