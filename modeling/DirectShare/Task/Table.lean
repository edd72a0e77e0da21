import DirectShare.Task.Basic

/-!
# The table of tasks

A sender's sessions and its download service share one table. A session registers its task, notes
that it was requested and how it ended; the download service is granted a requested task, and no
task more than once. Old tasks are swept. The clock that tells times, and the unit that it counts
in, are the caller's.

A `TaskTable` holds each task with its `TaskState` and its times. The calls are
`TaskTable.register`, `TaskTable.request`, `TaskTable.grant`, `TaskTable.finish`, `TaskTable.remove`
and `TaskTable.sweep`; the first four may be refused.
-/

namespace DirectShare

/-- How a task ended for the sender. -/
inductive TaskEnd where
  /-- The receiver has all of it. -/
  | completed
  /-- It went wrong, or took too long. -/
  | failed
deriving DecidableEq, Repr

/-- How far a task has come. -/
inductive TaskState where
  /-- The receiver does not know of it. -/
  | offered
  /-- The receiver has acknowledged it. -/
  | requested
  /-- The download service was granted it. -/
  | serving
  /-- It has ended. -/
  | ended (how : TaskEnd)
deriving DecidableEq, Repr

/-- Whether a task has ended. -/
def TaskState.isTerminal : TaskState → Bool
  | .ended _ => true
  | _ => false

/-- Why something cannot happen to a task. -/
inductive TaskError where
  /-- The table has no such task. -/
  | notFound (id : String)
  /-- The task was granted before. -/
  | alreadyServing (id : String)
  /-- The receiver has not acknowledged the task. -/
  | notRequested (id : String)
  /-- The task has ended. -/
  | terminal (id : String)
  /-- The table has a task of that name. -/
  | duplicate (id : String)
deriving DecidableEq, Repr

/-- The message for the reader of a report. -/
def TaskError.message : TaskError → String
  | .notFound id => "task " ++ id ++ " not found"
  | .alreadyServing id => "task " ++ id ++ " is already being served"
  | .notRequested id => "task " ++ id ++ " has not been requested yet"
  | .terminal id => "task " ++ id ++ " has already finished"
  | .duplicate id => "task " ++ id ++ " is already registered"

/-- A task in the table. -/
structure TaskTable.Entry where
  task : SharedTask
  /-- How far it has come. -/
  state : TaskState
  /-- When it was registered. -/
  created : Nat
  /-- When it ended. -/
  finished : Option Nat
deriving DecidableEq, Repr

/-- The tasks of a sender. -/
structure TaskTable where
  /-- How long a task is kept after its end. -/
  grace : Nat
  /-- How long a task may take. -/
  lifetime : Nat
  /-- The tasks in the order of their registration. -/
  entries : List TaskTable.Entry := []
deriving DecidableEq, Repr

namespace TaskTable

/-- What the download service is granted. -/
structure Grant where
  /-- The name of the task. -/
  taskId : String
  /-- The files to serve. -/
  files : List SharedFile
deriving DecidableEq, Repr

/-- The entry of a task. -/
def find? (table : TaskTable) (id : String) : Option Entry :=
  table.entries.find? (·.task.id = id)

/-- The state of a task. -/
def state? (table : TaskTable) (id : String) : Option TaskState := (table.find? id).map (·.state)

/-- The number of tasks. -/
def size (table : TaskTable) : Nat := table.entries.length

/-- Changes the entry of a task. -/
def modify (table : TaskTable) (id : String) (change : Entry → Entry) : TaskTable :=
  { table with entries := table.entries.map fun e => if e.task.id = id then change e else e }

/-- Puts a new task into the table. -/
def register (table : TaskTable) (task : SharedTask) (now : Nat) : Except TaskError TaskTable :=
  match table.find? task.id with
  | some _ => .error (.duplicate task.id)
  | none =>
    let entry : Entry := { task, state := .offered, created := now, finished := none }
    .ok { table with entries := table.entries ++ [entry] }

/-- Notes that the receiver has acknowledged a task. -/
def request (table : TaskTable) (id : String) : Except TaskError TaskTable :=
  match table.state? id with
  | none => .error (.notFound id)
  | some .offered | some .requested => .ok (table.modify id fun e => { e with state := .requested })
  | some .serving => .error (.alreadyServing id)
  | some (.ended _) => .error (.terminal id)

/-- Grants a task to the download service. -/
def grant (table : TaskTable) (id : String) : Except TaskError (Grant × TaskTable) :=
  match table.find? id with
  | none => .error (.notFound id)
  | some entry =>
    match entry.state with
    | .requested =>
      .ok ({ taskId := id, files := entry.task.files }, table.modify id fun e => { e with state := .serving })
    | .offered => .error (.notRequested id)
    | .serving => .error (.alreadyServing id)
    | .ended _ => .error (.terminal id)

/-- Notes how a task ended; what was noted first stands. -/
def finish (table : TaskTable) (id : String) (how : TaskEnd) (now : Nat) : Except TaskError TaskTable :=
  match table.state? id with
  | none => .error (.notFound id)
  | some (.ended _) => .ok table
  | some _ => .ok (table.modify id fun e => { e with state := .ended how, finished := some now })

/-- Takes a task out of the table. -/
def remove (table : TaskTable) (id : String) : TaskTable :=
  { table with entries := table.entries.filter (·.task.id ≠ id) }

/-- How an entry ended for the sender, if it is to be swept: a task that has not ended is swept at
the end of its lifetime and counts as failed. -/
def expired? (table : TaskTable) (now : Nat) (e : Entry) : Option TaskEnd :=
  match e.state, e.finished with
  | .ended how, some since => if table.grace ≤ now - since then some how else none
  | .ended _, none => none
  | _, _ => if table.lifetime ≤ now - e.created then some .failed else none

/-- The names of the tasks that are to be swept, with how they ended. -/
def expired (table : TaskTable) (now : Nat) : List (String × TaskEnd) :=
  table.entries.filterMap fun e => (table.expired? now e).map fun how => (e.task.id, how)

/-- The table without the tasks that are to be swept. -/
def sweep (table : TaskTable) (now : Nat) : TaskTable :=
  { table with entries := table.entries.filter fun e => (table.expired? now e).isNone }

end TaskTable

end DirectShare
