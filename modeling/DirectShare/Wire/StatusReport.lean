import DirectShare.Json.Record
import DirectShare.Text.Inspect

/-!
# Status reports

With a status report a receiver tells how a task ended for it.

A `StatusReport` has a number for the `Outcome`, and a reason.
-/

namespace DirectShare

/-- How a task ended for the receiver. -/
inductive Outcome where
  /-- All of it arrived. -/
  | ok
  /-- Something went wrong. -/
  | error
  /-- The user did not want it. -/
  | refused
deriving DecidableEq, Repr

namespace Outcome

/-- The number of an outcome. -/
def code : Outcome → Int32
  | .ok => 1
  | .error => 2
  | .refused => 3

/-- The outcome with a number; every number without a meaning stands for an error. -/
def ofCode (n : Int32) : Outcome :=
  if n = 1 then .ok else if n = 3 then .refused else .error

/-- An outcome is found by its number. -/
@[simp] theorem ofCode_code (o : Outcome) : ofCode o.code = o := by
  cases o <;> decide

instance : Inspect Outcome where
  inspect
    | .ok => "Ok"
    | .error => "Error"
    | .refused => "Refused"

end Outcome

/-- How a task ended for the receiver, and why. -/
structure StatusReport where
  /-- The name of the task. -/
  taskId : Option String := none
  /-- The name of the task under its older field name. -/
  id : Option String := none
  /-- The number of the outcome. -/
  code : Int32 := 0
  /-- The reason for an outcome that is no success. -/
  reason : String := ""
deriving DecidableEq, Repr

namespace StatusReport

open Json in
instance : Json.Record StatusReport where
  fields report :=
    [("taskId", orNull .string report.taskId), ("id", orNull .string report.id),
      ("type", ofInt report.code.toInt), ("reason", .string report.reason)]
  ofTree? t :=
    match t.fields? ["taskId", "id", "type", "reason"] with
    | some [taskId, id, code, reason] => do
      let taskId ← Field.optional Tree.string? taskId
      let id ← Field.optional Tree.string? id
      let code ← Field.withDefault 0 Tree.int32? code
      let reason ← Field.withDefault "" Tree.string? reason
      return { taskId, id, code, reason }
    | _ => none

/-- The report of an outcome of a task. -/
def ofOutcome (task : String) (outcome : Outcome) (reason : String) : StatusReport :=
  { taskId := some task, id := some task, code := outcome.code, reason }

/-- The outcome that is reported. -/
def outcome (report : StatusReport) : Outcome := .ofCode report.code

/-- The name of the task that the report is about. -/
def task? (report : StatusReport) : Option String := report.taskId.or report.id

end StatusReport

end DirectShare
