import Mathlib
import DirectShare.Proofs.Task.Lifecycle

/-!
# Tables without contents

A table keeps its tasks under their names, and what it does with them depends on the names alone. The outline of
a table has the names, states and times of its tasks, but neither files nor texts. Every call makes of the outline
what it makes of the table.

`TaskTable.outline` is a table without the contents of its tasks. There is one lemma for each operation, which
takes the outline through it, and `TaskTable.outline_run` collects them for a call.
-/

namespace DirectShare

/-- The task without its contents. -/
def SharedTask.outline (task : SharedTask) : SharedTask := { id := task.id }

/-- The outline of a task has its name. -/
@[simp] lemma SharedTask.id_outline (task : SharedTask) : task.outline.id = task.id := rfl

namespace TaskTable

/-- The entry without the contents of its task. -/
def Entry.outline (e : Entry) : Entry := { e with task := e.task.outline }

/-- The table without the contents of its tasks. -/
def outline (table : TaskTable) : TaskTable := { table with entries := table.entries.map Entry.outline }

/-- The call without the contents of its task. -/
def Call.outline : Call → Call
  | .register task now => .register task.outline now
  | call => call

/-- The outline of an entry has the name of its task. -/
@[simp] lemma Entry.id_outline (e : Entry) : e.outline.task.id = e.task.id := rfl

variable {table : TaskTable} {id : String}

/-- In the outline of a table, a name finds the outline of what it finds in the table. -/
@[simp] lemma find?_outline : table.outline.find? id = (table.find? id).map Entry.outline := by
  simp only [find?, outline, List.find?_map]
  rfl

/-- The outline of a table has the states of its tasks. -/
@[simp] lemma state?_outline : table.outline.state? id = table.state? id := by
  rw [state?, state?, find?_outline, Option.map_map]
  rfl

/-- Changing the outline of an entry is changing the entry. -/
lemma outline_modify {change : Entry → Entry} (h : ∀ e, (change e).outline = change e.outline) :
    (table.modify id change).outline = table.outline.modify id change := by
  simp only [outline, modify, List.map_map, mk.injEq, true_and]
  refine List.map_congr_left fun e _ => ?_
  by_cases he : e.task.id = id
  · simp [he, h]
  · simp [he]

/-- Registering the outline of a task is registering the task. -/
lemma outline_register (task : SharedTask) (now : Nat) :
    (table.register task now).map outline = table.outline.register task.outline now := by
  simp only [register, SharedTask.id_outline, find?_outline]
  cases table.find? task.id with
  | some e => rfl
  | none => simp [Except.map, outline, Entry.outline]

/-- A request makes of the outline what it makes of the table. -/
lemma outline_request : (table.request id).map outline = table.outline.request id := by
  have hmodify : (table.modify id fun e => { e with state := .requested }).outline = table.outline.modify id _ :=
    outline_modify fun _ => rfl
  simp only [request, state?_outline]
  cases table.state? id with
  | none => rfl
  | some state =>
    cases state with
    | offered => exact congrArg Except.ok hmodify
    | requested => exact congrArg Except.ok hmodify
    | _ => rfl

/-- An end makes of the outline what it makes of the table. -/
lemma outline_finish (how : TaskEnd) (now : Nat) :
    (table.finish id how now).map outline = table.outline.finish id how now := by
  have hmodify : (table.modify id fun e => { e with state := .ended how, finished := some now }).outline =
      table.outline.modify id _ := outline_modify fun _ => rfl
  simp only [finish, state?_outline]
  cases table.state? id with
  | none => rfl
  | some state =>
    cases state with
    | ended how' => rfl
    | _ => exact congrArg Except.ok hmodify

/-- A removal makes of the outline what it makes of the table. -/
lemma outline_remove : (table.remove id).outline = table.outline.remove id := by
  simp only [outline, remove, List.filter_map]
  rfl

/-- A sweep makes of the outline what it makes of the table. -/
lemma outline_sweep (now : Nat) : (table.sweep now).outline = table.outline.sweep now := by
  simp only [outline, sweep, List.filter_map]
  rfl

/-- What is attempted makes of the outline what it makes of the table. -/
lemma outline_attempt {result : Except TaskError TaskTable} :
    (table.attempt result).2.outline = (table.outline.attempt (result.map outline)).2 := by
  cases result <;> rfl

/-- Two tables of which nothing but the contents of tasks differs are changed alike. -/
lemma outline_cases {r r' : Except TaskError TaskTable} (h : r.map outline = r'.map outline) :
    (∃ e, r = .error e ∧ r' = .error e) ∨
      ∃ table table', r = .ok table ∧ r' = .ok table' ∧ table.outline = table'.outline := by
  cases r with
  | error e =>
    cases r' with
    | error e' =>
      cases h
      exact .inl ⟨e, rfl, rfl⟩
    | ok table' => cases h
  | ok table =>
    cases r' with
    | error e' => cases h
    | ok table' => exact .inr ⟨table, table', rfl, rfl, Except.ok.inj h⟩

/-- A grant marks the task as served. -/
lemma outline_grant : ((Call.grant id).run table).2.outline = ((Call.grant id).run table.outline).2 := by
  have hmodify : (table.modify id fun e => { e with state := .serving }).outline = table.outline.modify id _ :=
    outline_modify fun _ => rfl
  simp only [Call.run, grant, find?_outline]
  cases table.find? id with
  | none => rfl
  | some e =>
    have hstate : e.outline.state = e.state := rfl
    simp only [Option.map_some, hstate]
    cases e.state with
    | requested => exact hmodify
    | _ => rfl

/-- A call makes of the outline what it makes of the table. -/
theorem outline_run (call : Call) (table : TaskTable) :
    (call.run table).2.outline = (call.outline.run table.outline).2 := by
  cases call with
  | register task now => exact outline_attempt.trans (by rw [outline_register]; rfl)
  | request id => exact outline_attempt.trans (by rw [outline_request]; rfl)
  | grant id => exact outline_grant
  | finish id how now => exact outline_attempt.trans (by rw [outline_finish]; rfl)
  | remove id => exact outline_remove
  | sweep now => exact outline_sweep now

end TaskTable

end DirectShare
