import Mathlib
import DirectShare.Task.Table

/-!
# Entries in the table of tasks

What each operation does to the entry of a task, and that it leaves the entries of other tasks alone.

For every operation there is an inversion (`TaskTable.register_ok`, `TaskTable.request_ok`,
`TaskTable.grant_ok`) and the state that it leaves (`TaskTable.state?_register`, `TaskTable.state?_request`,
`TaskTable.state?_grant`, `TaskTable.state?_finish`); all but the registration change one entry, which
`TaskTable.find?_modify` describes. A task whose name is free can be registered (`TaskTable.exists_register`),
and then requested, granted and finished (`TaskTable.Has.request`, `TaskTable.Has.grant`,
`TaskTable.Has.finish`).
-/

namespace DirectShare.TaskTable

variable {table table' : TaskTable} {id id' : String}

/-- Changing the entry of a task changes what is found under its name, and nothing else. -/
theorem find?_modify {change : Entry → Entry} (hchange : ∀ e, (change e).task.id = e.task.id) :
    (table.modify id change).find? id' =
      if id' = id then (table.find? id).map change else table.find? id' := by
  obtain ⟨grace, lifetime, entries⟩ := table
  simp only [modify, find?]
  induction entries with
  | nil => simp
  | cons e entries ih =>
    simp only [List.map_cons, List.find?_cons]
    by_cases he : e.task.id = id
    · have hchanged : (change e).task.id = id := (hchange e).trans he
      rw [if_pos he]
      by_cases hid : id' = id
      · simp [hid, he, hchanged]
      · have hne : ¬id = id' := fun h => hid h.symm
        simpa [hid, hne, he, hchanged] using ih
    · rw [if_neg he]
      by_cases hfound : e.task.id = id'
      · have hne : ¬id' = id := fun h => he (hfound.trans h)
        simp [hfound, hne]
      · simpa [he, hfound] using ih

/-- A task whose entry is the same has the same state. -/
lemma state?_eq_of_find?_eq (h : table'.find? id = table.find? id) : table'.state? id = table.state? id := by
  rw [state?, state?, h]

/-- A change that sets the state is seen in the state. -/
lemma state?_modify {change : Entry → Entry} {state : TaskState}
    (hchange : ∀ e, (change e).task.id = e.task.id) (hstate : ∀ e, (change e).state = state)
    (hfound : (table.state? id).isSome = true) :
    (table.modify id change).state? id = some state := by
  obtain ⟨e, he⟩ : ∃ e, table.find? id = some e := by
    rw [state?, Option.isSome_map] at hfound
    exact Option.isSome_iff_exists.1 hfound
  simp [state?, find?_modify hchange, he, hstate]

/-- A change leaves the states of other tasks alone. -/
lemma state?_modify_of_ne {change : Entry → Entry} (hchange : ∀ e, (change e).task.id = e.task.id)
    (hne : id' ≠ id) : (table.modify id change).state? id' = table.state? id' := by
  rw [state?, find?_modify hchange, if_neg hne, state?]

/-! ### What success says -/

/-- A task is registered if the table has none of its name, and gets an entry of its own. -/
theorem register_ok {task : SharedTask} {now : Nat} (h : table.register task now = .ok table') :
    table.find? task.id = none ∧
      table' = { table with
        entries := table.entries ++ [{ task, state := .offered, created := now, finished := none }] } := by
  rw [register] at h
  split at h
  · cases h
  · next hnone =>
    cases h
    exact ⟨hnone, rfl⟩

/-- A task is requested if it is offered, and can be requested again. -/
theorem request_ok (h : table.request id = .ok table') :
    ∃ e, table.find? id = some e ∧ (e.state = .offered ∨ e.state = .requested) ∧
      table' = table.modify id fun e => { e with state := .requested } := by
  rw [request, state?] at h
  cases hfind : table.find? id with
  | none =>
    rw [hfind] at h
    cases h
  | some e =>
    rw [hfind, Option.map_some] at h
    cases hstate : e.state with
    | offered =>
      rw [hstate] at h
      cases h
      exact ⟨e, rfl, .inl hstate, rfl⟩
    | requested =>
      rw [hstate] at h
      cases h
      exact ⟨e, rfl, .inr hstate, rfl⟩
    | serving =>
      rw [hstate] at h
      cases h
    | ended how =>
      rw [hstate] at h
      cases h

/-- A task is granted if it is requested, and is served from then on. -/
theorem grant_ok {g : Grant} (h : table.grant id = .ok (g, table')) :
    ∃ e, table.find? id = some e ∧ e.state = .requested ∧ g = ⟨id, e.task.files⟩ ∧
      table' = table.modify id fun e => { e with state := .serving } := by
  rw [TaskTable.grant] at h
  split at h
  · cases h
  · next e hfind =>
    split at h
    all_goals cases h
    next hstate => exact ⟨e, hfind, hstate, rfl, rfl⟩

/-- The end of a task is noted, unless one was noted before. -/
lemma finish_of_find? {e : Entry} (h : table.find? id = some e) (how : TaskEnd) (now : Nat) :
    table.finish id how now =
      .ok (if e.state.isTerminal then table
        else table.modify id fun e => { e with state := .ended how, finished := some now }) := by
  rw [finish, state?, h, Option.map_some]
  cases e.state <;> rfl

/-- A task that is not there cannot be ended. -/
lemma finish_of_find?_none (h : table.find? id = none) (how : TaskEnd) (now : Nat) :
    table.finish id how now = .error (.notFound id) := by
  rw [finish, state?, h]
  rfl

/-! ### States -/

/-- A task is registered only if the table has none of its name. -/
lemma find?_of_register {task : SharedTask} {now : Nat} (h : table.register task now = .ok table') :
    table.find? task.id = none := (register_ok h).1

/-- A registered task is offered. -/
theorem state?_register {task : SharedTask} {now : Nat} (h : table.register task now = .ok table') :
    table'.state? task.id = some .offered := by
  obtain ⟨hnone, rfl⟩ := register_ok h
  rw [find?] at hnone
  simp [state?, find?, List.find?_append, hnone]

/-- A requested task is requested. -/
theorem state?_request (h : table.request id = .ok table') : table'.state? id = some .requested := by
  obtain ⟨e, hfind, -, rfl⟩ := request_ok h
  exact state?_modify (fun _ => rfl) (fun _ => rfl) (by simp [state?, hfind])

/-- A granted task was requested, and is served. -/
theorem state?_grant {grant : Grant} (h : table.grant id = .ok (grant, table')) :
    table.state? id = some .requested ∧ table'.state? id = some .serving ∧
      ∀ id', id' ≠ id → table'.state? id' = table.state? id' := by
  obtain ⟨e, hfind, hstate, -, rfl⟩ := grant_ok h
  refine ⟨by rw [state?, hfind, Option.map_some, hstate], ?_, fun id' hne => state?_modify_of_ne (fun _ => rfl) hne⟩
  exact state?_modify (fun _ => rfl) (fun _ => rfl) (by simp [state?, hfind])

/-- A task that is in the table and has not ended can be finished. -/
theorem state?_finish {state : TaskState} (hstate : table.state? id = some state)
    (hopen : state.isTerminal = false) (how : TaskEnd) (now : Nat) :
    ∃ table', table.finish id how now = .ok table' ∧ table'.state? id = some (.ended how) := by
  rw [state?, Option.map_eq_some_iff] at hstate
  obtain ⟨e, hfind, rfl⟩ := hstate
  rw [finish_of_find? hfind, if_neg (by simp [hopen])]
  exact ⟨_, rfl, state?_modify (fun _ => rfl) (fun _ => rfl) (by simp [state?, hfind])⟩

/-! ### The life of a task -/

/-- The task is in the table, in the given state. -/
def Has (table : TaskTable) (task : SharedTask) (state : TaskState) : Prop :=
  ∃ e, table.find? task.id = some e ∧ e.task = task ∧ e.state = state

variable {task : SharedTask} {state : TaskState}

/-- A task that is there is in its state. -/
lemma Has.state?_eq (h : table.Has task state) : table.state? task.id = some state := by
  obtain ⟨e, hfind, -, rfl⟩ := h
  rw [state?, hfind]
  rfl

/-- A change that sets the state leaves the task there in that state. -/
lemma Has.modify (change : Entry → Entry) {state' : TaskState} (h : table.Has task state)
    (htask : ∀ e, (change e).task = e.task) (hstate : ∀ e, (change e).state = state') :
    (table.modify task.id change).Has task state' := by
  obtain ⟨e, hfind, he, -⟩ := h
  refine ⟨change e, ?_, (htask e).trans he, hstate e⟩
  rw [find?_modify fun e => congrArg SharedTask.id (htask e), if_pos rfl, hfind]
  rfl

/-- A new task can be registered. -/
theorem exists_register (h : table.find? task.id = none) (now : Nat) :
    ∃ table', table.register task now = .ok table' ∧ table'.Has task .offered := by
  have hadded : ∀ e : Entry, e.task.id = task.id →
      List.find? (·.task.id = task.id) (table.entries ++ [e]) = some e := by
    intro e he
    rw [find?] at h
    simp [List.find?_append, h, he]
  rw [register, h]
  exact ⟨_, rfl, _, hadded _ rfl, rfl, rfl⟩

/-- An offered task can be requested. -/
theorem Has.request (h : table.Has task .offered) :
    ∃ table', table.request task.id = .ok table' ∧ table'.Has task .requested := by
  rw [TaskTable.request, h.state?_eq]
  exact ⟨_, rfl, h.modify _ (fun _ => rfl) fun _ => rfl⟩

/-- A requested task can be granted, with all of its files. -/
theorem Has.grant (h : table.Has task .requested) :
    ∃ table', table.grant task.id = .ok (⟨task.id, task.files⟩, table') ∧ table'.Has task .serving := by
  have hgranted := h.modify (fun e => { e with state := .serving }) (fun _ => rfl) fun _ => rfl
  obtain ⟨e, hfind, rfl, hstate⟩ := h
  simp only [TaskTable.grant, hfind, hstate]
  exact ⟨_, rfl, hgranted⟩

/-- A task that was only offered is not granted. -/
lemma Has.grant_offered (h : table.Has task .offered) :
    table.grant task.id = .error (.notRequested task.id) := by
  obtain ⟨e, hfind, -, hstate⟩ := h
  simp only [TaskTable.grant, hfind, hstate]

/-- A task that has not ended can end. -/
theorem Has.finish (h : table.Has task state) (hopen : state.isTerminal = false) (how : TaskEnd) (now : Nat) :
    ∃ table', table.finish task.id how now = .ok table' ∧ table'.Has task (.ended how) := by
  have hended := h.modify (fun e => { e with state := .ended how, finished := some now })
    (fun _ => rfl) fun _ => rfl
  obtain ⟨e, hfind, -, rfl⟩ := h
  rw [finish_of_find? hfind, if_neg (by simp [hopen])]
  exact ⟨_, rfl, hended⟩

end DirectShare.TaskTable
