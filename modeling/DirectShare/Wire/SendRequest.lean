import DirectShare.Json.Record

/-!
# Send requests

With a send request a sender announces a task: its name, and either its files or its text.

Each announced file has a `FileSummary`. A `SendRequest` may name its task in either of two fields,
of which `SendRequest.task?` takes the first that is there, unless it is empty.
-/

namespace DirectShare

/-- The name and size of an announced file. -/
structure FileSummary where
  /-- The name of the file. -/
  name : String
  /-- The number of its bytes. -/
  size : UInt64
deriving DecidableEq, Repr

open Json in
instance FileSummary.instRecord : Json.Record FileSummary where
  fields file := [("name", .string file.name), ("size", ofNat file.size.toNat)]
  ofTree? t :=
    match t.fields? ["name", "size"] with
    | some [name, size] => do
      let name ← Field.required Tree.string? name
      let size ← Field.required Tree.uint64? size
      return { name, size }
    | _ => none

/-- The announcement of a task. -/
structure SendRequest where
  /-- The name of the task. -/
  taskId : Option String := none
  /-- The name of the task under its older field name. -/
  id : Option String := none
  /-- The session name of the sender. -/
  senderId : Option String := none
  /-- The name of the sending device. -/
  senderName : String := "Unknown"
  /-- The name of the first file. -/
  fileName : String := ""
  /-- The type of all files, or `*/*` if they differ. -/
  mimeType : String := "*/*"
  /-- The number of files. -/
  fileCount : UInt32 := 0
  /-- The number of bytes of all files. -/
  totalSize : UInt64 := 0
  /-- The text of a task that shares a text. -/
  catShareText : Option String := none
  /-- A picture to show with the request. -/
  thumbnail : Option String := none
  files : List FileSummary := []
deriving DecidableEq, Repr

namespace SendRequest

open Json in
instance : Json.Record SendRequest where
  fields request :=
    [("taskId", orNull .string request.taskId), ("id", orNull .string request.id),
      ("senderId", orNull .string request.senderId), ("senderName", .string request.senderName),
      ("fileName", .string request.fileName), ("mimeType", .string request.mimeType),
      ("fileCount", ofNat request.fileCount.toNat), ("totalSize", ofNat request.totalSize.toNat)]
      ++ ifSome "catShareText" .string request.catShareText
      ++ ifSome "thumbnail" .string request.thumbnail
      ++ if request.files = [] then []
        else [("files", .array (request.files.map fun file => .object (Record.fields file)))]
  ofTree? t :=
    match t.fields? ["taskId", "id", "senderId", "senderName", "fileName", "mimeType", "fileCount",
      "totalSize", "catShareText", "thumbnail", "files"] with
    | some [taskId, id, senderId, senderName, fileName, mimeType, fileCount, totalSize, catShareText,
        thumbnail, files] => do
      let taskId ← Field.optional Tree.string? taskId
      let id ← Field.optional Tree.string? id
      let senderId ← Field.optional Tree.string? senderId
      let senderName ← Field.withDefault "Unknown" Tree.string? senderName
      let fileName ← Field.withDefault "" Tree.string? fileName
      let mimeType ← Field.withDefault "*/*" Tree.string? mimeType
      let fileCount ← Field.withDefault 0 Tree.uint32? fileCount
      let totalSize ← Field.withDefault 0 Tree.uint64? totalSize
      let catShareText ← Field.optional Tree.string? catShareText
      let thumbnail ← Field.optional Tree.string? thumbnail
      let files ← Field.withDefault [] (Tree.list? Record.ofTree?) files
      return { taskId, id, senderId, senderName, fileName, mimeType, fileCount, totalSize,
               catShareText, thumbnail, files }
    | _ => none

/-- The name of the announced task, which must not be empty. -/
def task? (request : SendRequest) : Option String :=
  (request.taskId.or request.id).filter (· ≠ "")

/-- Whether the request announces a text. -/
def isText (request : SendRequest) : Bool := request.catShareText.isSome

end SendRequest

end DirectShare
