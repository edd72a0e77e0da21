import Mathlib
import DirectShare.Proofs.Task.Table

/-!
# The life of a task

Any number of clients call a table of tasks, in any order. Between its registration and its removal a task
only goes forward, from offered over requested and serving to its end, which stands. It is granted at most
once, and only while it is requested. A call that is refused changes nothing, and no call but a sweep
touches the entry of another task.

`TaskTable.Call.run` is one call, with its `TaskTable.Answer`; `TaskTable.play` and `TaskTable.history` are
what calls make of a table and what they are answered. `TaskTable.changes_run` inverts a call once, into one
of the ways in which it can change a table. From that `TaskTable.find?_run_of_ne` leaves other entries alone,
and `TaskTable.Distinct.becomes` says what becomes of the own one. `TaskTable.Lived` relates an entry to the
calls so far, and `TaskTable.goes_forward_and_granted_once` follows by induction on them.
-/

namespace DirectShare

/-- A task goes on to the next state. -/
inductive TaskState.Advances : TaskState → TaskState → Prop
  | requested : Advances .offered .requested
  | served : Advances .requested .serving
  | ended {state : TaskState} (how : TaskEnd) : state.isTerminal = false → Advances state (.ended how)

namespace TaskTable

/-- What a client can ask of a table. -/
inductive Call where
  /-- To put a new task into the table. -/
  | register (task : SharedTask) (now : Nat)
  /-- To note that the receiver has acknowledged a task. -/
  | request (id : String)
  /-- To be granted a task. -/
  | grant (id : String)
  /-- To note how a task ended. -/
  | finish (id : String) (how : TaskEnd) (now : Nat)
  /-- To take a task out of the table. -/
  | remove (id : String)
  /-- To take out what is too old. -/
  | sweep (now : Nat)

/-- What a client is answered. -/
inductive Answer where
  /-- It is done. -/
  | done
  /-- It cannot be done. -/
  | refused (e : TaskError)
  /-- The task is granted. -/
  | granted (g : Grant)
  /-- The task was taken out, if it was there. -/
  | removed (task : Option SharedTask)
  /-- These tasks were taken out. -/
  | swept (tasks : List (String × TaskEnd))

/-- The task that a call is about. A sweep is about no particular one. -/
def Call.task? : Call → Option String
  | .register task _ => some task.id
  | .request id | .grant id | .finish id _ _ | .remove id => some id
  | .sweep _ => none

/-- What comes of a change that may be refused. -/
def attempt (table : TaskTable) : Except TaskError TaskTable → Answer × TaskTable
  | .ok table' => (.done, table')
  | .error e => (.refused e, table)

/-- What a call is answered, and what it makes of the table. -/
def Call.run (call : Call) (table : TaskTable) : Answer × TaskTable :=
  match call with
  | .register task now => table.attempt (table.register task now)
  | .request id => table.attempt (table.request id)
  | .grant id =>
    match table.grant id with
    | .ok (g, table') => (.granted g, table')
    | .error e => (.refused e, table)
  | .finish id how now => table.attempt (table.finish id how now)
  | .remove id => (.removed ((table.find? id).map (·.task)), table.remove id)
  | .sweep now => (.swept (table.expired now), table.sweep now)

/-- The table after some calls. -/
def play : List Call → TaskTable → TaskTable
  | [], table => table
  | call :: calls, table => play calls (call.run table).2

/-- What some calls are answered, one after the other. -/
def history : List Call → TaskTable → List (Call × Answer)
  | [], _ => []
  | call :: calls, table => (call, (call.run table).1) :: history calls (call.run table).2

variable {table table' : TaskTable} {id id' : String} {call : Call} {calls : List Call} {e e' : Entry}

/-- Calls can be made in two parts. -/
lemma play_append (calls calls' : List Call) (table : TaskTable) :
    play (calls ++ calls') table = play calls' (play calls table) := by
  induction calls generalizing table with
  | nil => rfl
  | cons call calls ih => exact ih _

/-- A refused call changes nothing. -/
lemma run_of_refused {e : TaskError} (h : (call.run table).1 = .refused e) : (call.run table).2 = table := by
  have hattempt : ∀ result, (table.attempt result).1 = .refused e → (table.attempt result).2 = table := by
    intro result hresult
    cases result with
    | ok table' => cases hresult
    | error e' => rfl
  cases call with
  | register task now => exact hattempt _ h
  | request id => exact hattempt _ h
  | finish id how now => exact hattempt _ h
  | grant id =>
    simp only [Call.run] at h ⊢
    split
    · next hgrant =>
      rw [hgrant] at h
      cases h
    · rfl
  | remove id => cases h
  | sweep now => cases h

/-! ### Entries of other tasks -/

/-- Changing an entry leaves the entries of other tasks alone. -/
lemma find?_modify_of_ne {change : Entry → Entry} (hchange : ∀ e, (change e).task = e.task) (hne : id' ≠ id) :
    (table.modify id change).find? id' = table.find? id' := by
  rw [find?_modify fun e => congrArg SharedTask.id (hchange e), if_neg hne]

/-- The entry that is changed is found as the change leaves it. -/
lemma find?_modify_self {change : Entry → Entry} (hchange : ∀ e, (change e).task = e.task)
    (hfind : table.find? id = some e) : (table.modify id change).find? id = some (change e) := by
  rw [find?_modify fun e => congrArg SharedTask.id (hchange e), if_pos rfl, hfind]
  rfl

/-- After a removal one task is not found any more, and all others are. -/
lemma find?_remove (table : TaskTable) (id id' : String) :
    (table.remove id).find? id' = if id' = id then none else table.find? id' := by
  simp only [remove, find?, List.find?_filter]
  split_ifs with hid
  · subst hid
    simp
  · congr 1
    funext e
    by_cases he : e.task.id = id'
    · simp [he, hid]
    · simp [he]

/-- What a call can make of a table. -/
inductive Changes (table : TaskTable) : Call → TaskTable → Prop
  /-- It adds an entry for a task that has none. -/
  | adds {task : SharedTask} {now : Nat} (e : Entry) : table.find? task.id = none → e.task = task →
      Changes table (.register task now) { table with entries := table.entries ++ [e] }
  /-- It changes the entry of its task, which goes on to be about that task. -/
  | alters {call : Call} {id : String} (change : Entry → Entry) : call.task? = some id →
      (∀ e, (change e).task = e.task) → Changes table call (table.modify id change)
  /-- It takes the entry of its task out. -/
  | removes (id : String) : Changes table (.remove id) (table.remove id)
  /-- It takes out what is too old. -/
  | sweeps (now : Nat) : Changes table (.sweep now) (table.sweep now)
  /-- It does nothing. -/
  | nothing (call : Call) : Changes table call table

/-- A registration changes a table as registrations do. -/
lemma changes_register {task : SharedTask} {now : Nat} (h : table.register task now = .ok table') :
    table.Changes (.register task now) table' := by
  obtain ⟨hnone, rfl⟩ := register_ok h
  exact .adds _ hnone rfl

/-- A request changes a table as requests do. -/
lemma changes_request (h : table.request id = .ok table') : table.Changes (.request id) table' := by
  obtain ⟨e, -, -, rfl⟩ := request_ok h
  exact .alters _ rfl fun _ => rfl

/-- A grant changes a table as grants do. -/
lemma changes_grant {g : Grant} (h : table.grant id = .ok (g, table')) : table.Changes (.grant id) table' := by
  obtain ⟨e, -, -, -, rfl⟩ := grant_ok h
  exact .alters _ rfl fun _ => rfl

/-- The end of a task changes a table as ends do. -/
lemma changes_finish {how : TaskEnd} {now : Nat} (h : table.finish id how now = .ok table') :
    table.Changes (.finish id how now) table' := by
  cases hfind : table.find? id with
  | none =>
    rw [finish_of_find?_none hfind] at h
    cases h
  | some e =>
    rw [finish_of_find? hfind] at h
    cases h
    split_ifs
    · exact .nothing _
    · exact .alters _ rfl fun _ => rfl

/-- What is attempted changes a table as it does where it succeeds. -/
lemma changes_attempt {result : Except TaskError TaskTable}
    (h : ∀ table', result = .ok table' → table.Changes call table') : table.Changes call (table.attempt result).2 := by
  cases result with
  | ok table' => exact h table' rfl
  | error e => exact .nothing _

/-- Every call changes a table in one of these ways. -/
theorem changes_run (call : Call) (table : TaskTable) : table.Changes call (call.run table).2 := by
  cases call with
  | register task now => exact changes_attempt fun _ => changes_register
  | request id => exact changes_attempt fun _ => changes_request
  | grant id =>
    simp only [Call.run]
    cases hgrant : table.grant id with
    | error e => exact .nothing _
    | ok result => exact changes_grant hgrant
  | finish id how now => exact changes_attempt fun _ => changes_finish
  | remove id => exact .removes id
  | sweep now => exact .sweeps now

/-- A change leaves the entries of other tasks alone. -/
lemma Changes.find?_of_ne (h : table.Changes call table') (hcall : call.task? = some id) (hne : id' ≠ id) :
    table'.find? id' = table.find? id' := by
  cases h with
  | adds e hnone htask =>
    cases hcall
    simp [find?, List.find?_append, htask, hne.symm]
  | alters change hcall' hchange =>
    obtain rfl := Option.some.inj (hcall.symm.trans hcall')
    exact find?_modify_of_ne hchange hne
  | removes =>
    cases hcall
    exact (find?_remove table id id').trans (if_neg hne)
  | sweeps => cases hcall
  | nothing => rfl

/-- A call leaves the entries of other tasks alone. -/
theorem find?_run_of_ne (hcall : call.task? = some id) (hne : id' ≠ id) :
    (call.run table).2.find? id' = table.find? id' := (changes_run call table).find?_of_ne hcall hne

/-! ### One entry for each task -/

/-- No two entries are about the same task. -/
def Distinct (table : TaskTable) : Prop := (table.entries.map (·.task.id)).Nodup

/-- A task is not found exactly if no entry has its name. -/
lemma find?_eq_none_iff : table.find? id = none ↔ ∀ e ∈ table.entries, e.task.id ≠ id := by
  simp [find?]

/-- An entry that is found is in the table, under the name that was looked for. -/
lemma mem_of_find? (h : table.find? id = some e) : e ∈ table.entries ∧ e.task.id = id :=
  ⟨List.mem_of_find?_eq_some h, by simpa using List.find?_some h⟩

/-- Where names are different, an entry is found by its name. -/
lemma Distinct.find?_eq_some_iff (h : table.Distinct) :
    table.find? id = some e ↔ e ∈ table.entries ∧ e.task.id = id := by
  refine ⟨mem_of_find?, ?_⟩
  rintro ⟨he, rfl⟩
  cases hfind : table.find? e.task.id with
  | none => exact absurd rfl (find?_eq_none_iff.1 hfind e he)
  | some e' =>
    obtain ⟨he', hid⟩ := mem_of_find? hfind
    rw [List.inj_on_of_nodup_map h he' he hid]

/-- In an empty table all names are different. -/
lemma distinct_empty (grace lifetime : Nat) : Distinct { grace, lifetime } := List.nodup_nil

/-- Changing an entry keeps names different. -/
lemma Distinct.modify (h : table.Distinct) {change : Entry → Entry}
    (hchange : ∀ e, (change e).task = e.task) : (table.modify id change).Distinct := by
  have hids : (table.modify id change).entries.map (·.task.id) = table.entries.map (·.task.id) := by
    simp only [TaskTable.modify, List.map_map]
    refine List.map_congr_left fun e _ => ?_
    simp only [Function.comp_apply]
    split_ifs
    · rw [hchange]
    · rfl
  rw [Distinct, hids]
  exact h

/-- Taking entries out keeps names different. -/
lemma Distinct.of_sublist (h : table.Distinct) (hsub : table'.entries.Sublist table.entries) :
    table'.Distinct := List.Nodup.sublist (hsub.map _) h

/-- Every change keeps names different. -/
lemma Changes.distinct (hchanges : table.Changes call table') (h : table.Distinct) : table'.Distinct := by
  cases hchanges with
  | adds e hnone htask =>
    rw [find?_eq_none_iff] at hnone
    simp only [Distinct, List.map_append, List.map_cons, List.map_nil]
    refine List.nodup_append.2 ⟨h, List.nodup_singleton _, ?_⟩
    intro a ha b hb
    obtain ⟨e', he', rfl⟩ := List.mem_map.1 ha
    rw [List.mem_singleton.1 hb, htask]
    exact hnone e' he'
  | alters change hcall hchange => exact h.modify hchange
  | removes => exact h.of_sublist List.filter_sublist
  | sweeps => exact h.of_sublist List.filter_sublist
  | nothing => exact h

/-- A registration keeps names different. -/
lemma Distinct.register {task : SharedTask} {now : Nat} (h : table.Distinct)
    (hregister : table.register task now = .ok table') : table'.Distinct := (changes_register hregister).distinct h

/-- No call puts a second entry for a task into the table. -/
lemma Distinct.run (h : table.Distinct) (call : Call) : (call.run table).2.Distinct :=
  (changes_run call table).distinct h

/-- Any calls keep names different. -/
lemma Distinct.play (h : table.Distinct) (calls : List Call) : (play calls table).Distinct := by
  induction calls generalizing table with
  | nil => exact h
  | cons call calls ih => exact ih (h.run call)

/-! ### The entry of a task -/

/-- What a call makes of the entry of a task, if the task stays in the table. -/
inductive Entry.Becomes (id : String) (e : Entry) : Call → Answer → Entry → Prop
  /-- The task is requested. -/
  | requested : e.state = .offered ∨ e.state = .requested →
      Becomes id e (.request id) .done { e with state := .requested }
  /-- The task is granted. -/
  | granted : e.state = .requested →
      Becomes id e (.grant id) (.granted ⟨id, e.task.files⟩) { e with state := .serving }
  /-- The task ends. -/
  | finished (how : TaskEnd) (now : Nat) : e.state.isTerminal = false →
      Becomes id e (.finish id how now) .done { e with state := .ended how, finished := some now }
  /-- Nothing happens to the task. -/
  | same {call : Call} {answer : Answer} : (∀ g, (call, answer) ≠ (.grant id, .granted g)) →
      (∀ how now, call = .finish id how now → e.state.isTerminal = true) → Becomes id e call answer e

/-- What a request makes of the entry of its task. -/
lemma becomes_request (hfind : table.find? id = some e)
    (hfind' : ((Call.request id).run table).2.find? id = some e') :
    e.Becomes id (.request id) ((Call.request id).run table).1 e' := by
  simp only [Call.run] at hfind' ⊢
  cases hrequest : table.request id with
  | error reason =>
    simp only [hrequest, attempt, hfind, Option.some.injEq] at hfind' ⊢
    subst hfind'
    exact .same (by simp) (by simp)
  | ok table' =>
    obtain ⟨e₀, hfind₀, hstate, rfl⟩ := request_ok hrequest
    obtain rfl := Option.some.inj (hfind₀.symm.trans hfind)
    simp only [hrequest, attempt] at hfind' ⊢
    obtain rfl := Option.some.inj (hfind'.symm.trans (find?_modify_self (fun _ => rfl) hfind))
    exact .requested hstate

/-- What a grant makes of the entry of its task. -/
lemma becomes_grant (hfind : table.find? id = some e)
    (hfind' : ((Call.grant id).run table).2.find? id = some e') :
    e.Becomes id (.grant id) ((Call.grant id).run table).1 e' := by
  simp only [Call.run] at hfind' ⊢
  cases hgrant : table.grant id with
  | error reason =>
    simp only [hgrant, hfind, Option.some.injEq] at hfind' ⊢
    subst hfind'
    exact .same (by simp) (by simp)
  | ok result =>
    obtain ⟨g, table'⟩ := result
    obtain ⟨e₀, hfind₀, hstate, rfl, rfl⟩ := grant_ok hgrant
    obtain rfl := Option.some.inj (hfind₀.symm.trans hfind)
    simp only [hgrant] at hfind' ⊢
    obtain rfl := Option.some.inj (hfind'.symm.trans (find?_modify_self (fun _ => rfl) hfind))
    exact .granted hstate

/-- What an end makes of the entry of its task. -/
lemma becomes_finish {how : TaskEnd} {now : Nat} (hfind : table.find? id = some e)
    (hfind' : ((Call.finish id how now).run table).2.find? id = some e') :
    e.Becomes id (.finish id how now) ((Call.finish id how now).run table).1 e' := by
  simp only [Call.run, finish_of_find? hfind, attempt] at hfind' ⊢
  split_ifs at hfind' with hopen
  · -- what was noted first stands
    rw [hfind, Option.some.injEq] at hfind'
    subst hfind'
    exact .same (by simp) fun _ _ _ => hopen
  · obtain rfl := Option.some.inj (hfind'.symm.trans (find?_modify_self (fun _ => rfl) hfind))
    exact .finished how now (Bool.eq_false_iff.2 hopen)

/-- What a call makes of the entry of a task that stays in the table. -/
theorem Distinct.becomes (h : table.Distinct) (hfind : table.find? id = some e)
    (hfind' : (call.run table).2.find? id = some e') : e.Becomes id call (call.run table).1 e' := by
  -- a call about another task leaves the entry as it is
  have hother : ∀ id', call.task? = some id' → id' ≠ id → e' = e := by
    intro id' htask hne
    rw [find?_run_of_ne htask hne.symm, hfind] at hfind'
    exact (Option.some.inj hfind').symm
  cases call with
  | register task now =>
    by_cases hid : task.id = id
    · have hduplicate : table.register task now = .error (.duplicate task.id) := by
        rw [TaskTable.register, hid, hfind]
      simp only [Call.run, hduplicate, attempt, hfind, Option.some.injEq] at hfind' ⊢
      subst hfind'
      exact .same (by simp) (by simp)
    · rw [hother _ rfl hid]
      exact .same (by simp) (by simp)
  | request id' =>
    by_cases hid : id' = id
    · subst hid
      exact becomes_request hfind hfind'
    · rw [hother _ rfl hid]
      exact .same (by simp) (by simp)
  | grant id' =>
    by_cases hid : id' = id
    · subst hid
      exact becomes_grant hfind hfind'
    · rw [hother _ rfl hid]
      exact .same (fun g hg => hid (Call.grant.inj (congrArg Prod.fst hg))) (by simp)
  | finish id' how now =>
    by_cases hid : id' = id
    · subst hid
      exact becomes_finish hfind hfind'
    · rw [hother _ rfl hid]
      refine .same (by simp) fun how now hcall => ?_
      cases hcall
      exact absurd rfl hid
  | remove id' =>
    by_cases hid : id' = id
    · subst hid
      simp [Call.run, find?_remove] at hfind'
    · rw [hother _ rfl hid]
      exact .same (by simp) (by simp)
  | sweep now =>
    obtain ⟨hmem, hid⟩ := mem_of_find? hfind'
    have hsame := h.find?_eq_some_iff.2 ⟨(List.mem_filter.1 hmem).1, hid⟩
    rw [hfind, Option.some.injEq] at hsame
    rw [← hsame]
    exact .same (by simp) (by simp)

/-- No call but a registration puts an entry for a task into the table. -/
lemma find?_run_of_none (hcall : ∀ task now, call = .register task now → task.id ≠ id)
    (hnone : table.find? id = none) : (call.run table).2.find? id = none := by
  have hstate : table.state? id = none := by simp [state?, hnone]
  by_cases hother : ∃ id', call.task? = some id' ∧ id' ≠ id
  · obtain ⟨id', htask, hne⟩ := hother
    rw [find?_run_of_ne htask hne.symm, hnone]
  simp only [not_exists, not_and, not_not] at hother
  cases call with
  | register task now => exact absurd (hother _ rfl) (hcall task now rfl)
  | request id' =>
    obtain rfl := hother _ rfl
    simpa only [Call.run, request, hstate, attempt] using hnone
  | grant id' =>
    obtain rfl := hother _ rfl
    simp only [Call.run, TaskTable.grant, hnone]
  | finish id' how now =>
    obtain rfl := hother _ rfl
    simpa only [Call.run, finish, hstate, attempt] using hnone
  | remove id' =>
    obtain rfl := hother _ rfl
    exact (find?_remove table _ _).trans (if_pos rfl)
  | sweep now =>
    rw [find?_eq_none_iff] at hnone ⊢
    exact fun e he => hnone e (List.mem_of_mem_filter he)

/-- An entry that is there after a call was there before, unless the call has registered it. -/
lemma Distinct.exists_becomes (h : table.Distinct)
    (hcall : ∀ task now, call = .register task now → task.id ≠ id)
    (hfind' : (call.run table).2.find? id = some e') :
    ∃ e, table.find? id = some e ∧ e.Becomes id call (call.run table).1 e' := by
  cases hfind : table.find? id with
  | none =>
    rw [find?_run_of_none hcall hfind] at hfind'
    cases hfind'
  | some e => exact ⟨e, rfl, h.becomes hfind hfind'⟩

/-- A task that has not ended ends as it is told to. -/
lemma Entry.Becomes.ended {how : TaskEnd} {now : Nat} {answer : Answer}
    (h : e.Becomes id (.finish id how now) answer e') (hopen : e.state.isTerminal = false) :
    e'.task = e.task ∧ e'.state = .ended how := by
  cases h with
  | finished => exact ⟨rfl, rfl⟩
  | same _ hfinish =>
    rw [hfinish how now rfl] at hopen
    cases hopen

/-- A task that is granted was requested, and is served from then on. -/
lemma exists_of_granted {g : Grant} (h : ((Call.grant id).run table).1 = .granted g) :
    ∃ e, table.find? id = some e ∧ e.state = .requested ∧ g = ⟨id, e.task.files⟩ ∧
      ((Call.grant id).run table).2.find? id = some { e with state := .serving } := by
  simp only [Call.run] at h ⊢
  cases hgrant : table.grant id with
  | error e =>
    rw [hgrant] at h
    cases h
  | ok result =>
    rw [hgrant] at h
    cases h
    obtain ⟨e, hfind, hstate, hg, htable⟩ := grant_ok hgrant
    simp only [htable]
    exact ⟨e, hfind, hstate, hg, find?_modify_self (fun _ => rfl) hfind⟩

/-! ### The life of a task -/

/-- No call changes the task of an entry, brings it back, or touches it after its end. -/
lemma Entry.Becomes.advances {answer : Answer} (h : e.Becomes id call answer e') :
    e'.task = e.task ∧ Relation.ReflTransGen TaskState.Advances e.state e'.state ∧
      (e.state.isTerminal = true → e' = e) := by
  cases h with
  | requested hstate =>
    obtain hstate | hstate := hstate
    · exact ⟨rfl, by rw [hstate]; exact .single .requested, by rw [hstate]; nofun⟩
    · exact ⟨rfl, by rw [hstate], by rw [hstate]; nofun⟩
  | granted hstate => exact ⟨rfl, by rw [hstate]; exact .single .served, by rw [hstate]; nofun⟩
  | finished how now hstate => exact ⟨rfl, .single (.ended how hstate), by rw [hstate]; nofun⟩
  | same => exact ⟨rfl, .refl, fun _ => rfl⟩

/-- What the calls since the registration of a task say about its entry. -/
structure Lived (task : SharedTask) (past : List (Call × Answer)) (e : Entry) : Prop where
  same : e.task = task
  /-- A task that was not requested is still offered, or has ended. -/
  offered : (.request task.id, .done) ∉ past → e.state = .offered ∨ e.state.isTerminal = true
  /-- A task that has not ended was not finished. -/
  unfinished : e.state.isTerminal = false → ∀ how now answer, (.finish task.id how now, answer) ∉ past
  /-- A task that was granted is served, or has ended. -/
  granted : ∀ g, (.grant task.id, .granted g) ∈ past → e.state = .serving ∨ e.state.isTerminal = true

variable {task : SharedTask} {past : List (Call × Answer)} {answer : Answer}

/-- After its registration the life of a task begins. -/
lemma lived_register {now : Nat} (hregister : table.register task now = .ok table') :
    ∃ e, table'.find? task.id = some e ∧ e.state = .offered ∧ Lived task [] e := by
  have hnone := find?_of_register hregister
  obtain ⟨table'', hregister', e, hfind, htask, hstate⟩ :=
    exists_register hnone now
  rw [hregister] at hregister'
  cases hregister'
  exact ⟨e, hfind, hstate, htask, fun _ => .inl hstate, fun _ _ _ _ => List.not_mem_nil, by simp⟩

/-- One more call. -/
lemma Lived.becomes (h : Lived task past e) (hbecomes : e.Becomes task.id call answer e') :
    Lived task (past ++ [(call, answer)]) e' := by
  obtain ⟨htask, hoffered, hunfinished, hgranted⟩ := h
  cases hbecomes with
  | requested hstate =>
    have hopen : e.state.isTerminal = false := by obtain hs | hs := hstate <;> rw [hs] <;> rfl
    refine ⟨htask, fun hpast => absurd (by simp) hpast, fun _ => ?_, fun g hg => ?_⟩
    · simpa using hunfinished hopen
    · obtain hserving | hended := hgranted g (by simpa using hg)
      · obtain hs | hs := hstate <;> rw [hs] at hserving <;> cases hserving
      · rw [hopen] at hended
        cases hended
  | granted hstate =>
    refine ⟨htask, fun hpast => ?_, fun _ => ?_, fun _ _ => .inl rfl⟩
    · obtain hs | hs := hoffered fun hmem => hpast (by simp [hmem])
      · rw [hstate] at hs
        cases hs
      · rw [hstate] at hs
        cases hs
    · simpa using hunfinished (by rw [hstate]; rfl)
  | finished how now hopen =>
    exact ⟨htask, fun _ => .inr rfl, nofun, fun _ _ => .inr rfl⟩
  | same hgrant hfinish =>
    refine ⟨htask, fun hpast => hoffered fun hmem => hpast (by simp [hmem]), fun hopen => ?_, fun g hg => ?_⟩
    · intro how now answer' hmem
      obtain hmem | hmem := List.mem_append.1 hmem
      · exact hunfinished hopen how now answer' hmem
      · cases List.mem_singleton.1 hmem
        rw [hfinish how now rfl] at hopen
        cases hopen
    · obtain hg | hg := List.mem_append.1 hg
      · exact hgranted g hg
      · exact absurd (List.mem_singleton.1 hg).symm (hgrant g)

/-- The task is in the table all the while. -/
def Stays (id : String) (calls : List Call) (table : TaskTable) : Prop :=
  ∀ before, before <+: calls → ∃ e, (play before table).find? id = some e

/-- A task that stays during some calls stays during the first of them. -/
lemma Stays.of_prefix {before : List Call} (h : Stays id calls table) (hinit : before <+: calls) :
    Stays id before table := fun _ hbefore => h _ (hbefore.trans hinit)

/-- A task that stays in the table only goes forward. -/
lemma Lived.play (hdistinct : table.Distinct) (h : Lived task past e) (hfind : table.find? task.id = some e)
    (hstays : Stays task.id calls table) :
    ∃ e', (play calls table).find? task.id = some e' ∧ Lived task (past ++ history calls table) e' ∧
      Relation.ReflTransGen TaskState.Advances e.state e'.state ∧ (e.state.isTerminal = true → e' = e) := by
  induction calls generalizing table e past with
  | nil => exact ⟨e, hfind, by simpa [history] using h, .refl, fun _ => rfl⟩
  | cons call calls ih =>
    obtain ⟨e₁, hfind₁⟩ := hstays [call] (by simp)
    have hbecomes := hdistinct.becomes hfind hfind₁
    obtain ⟨-, hforward, hends⟩ := hbecomes.advances
    obtain ⟨e₂, hfind₂, hlived, hforward', hends'⟩ :=
      ih (hdistinct.run call) (h.becomes hbecomes) hfind₁ fun before hbefore =>
        hstays (call :: before) (List.cons_prefix_cons.2 ⟨rfl, hbefore⟩)
    refine ⟨e₂, hfind₂, ?_, hforward.trans hforward', fun hterminal => ?_⟩
    · simpa [history] using hlived
    · obtain rfl := hends hterminal
      exact hends' hterminal

/-- Where in the calls an answer belongs. -/
lemma exists_of_history {before after : List (Call × Answer)} {answer : Answer}
    (h : history calls table = before ++ (call, answer) :: after) :
    ∃ first rest, calls = first ++ call :: rest ∧ history first table = before ∧
      (call.run (play first table)).1 = answer ∧
      history rest (call.run (play first table)).2 = after := by
  induction before generalizing calls table with
  | nil =>
    cases calls with
    | nil => cases h
    | cons call' calls =>
      cases h
      exact ⟨[], calls, rfl, rfl, rfl, rfl⟩
  | cons x before ih =>
    cases calls with
    | nil => cases h
    | cons call' calls =>
      simp only [history, List.cons_append, List.cons.injEq] at h
      obtain ⟨rfl, h⟩ := h
      obtain ⟨first, rest, rfl, rfl, hanswer, hafter⟩ := ih h
      exact ⟨call' :: first, rest, rfl, rfl, hanswer, hafter⟩

/-- A grant hands out the files of the task, and comes after the request, before any end and before any
other grant. -/
lemma Lived.granted_after (hdistinct : table.Distinct) (h : Lived task [] e)
    (hfind : table.find? task.id = some e) (hstays : Stays task.id calls table)
    {before after : List (Call × Answer)} {g : Grant}
    (hhistory : history calls table = before ++ (.grant task.id, .granted g) :: after) :
    g = ⟨task.id, task.files⟩ ∧ (.request task.id, .done) ∈ before ∧
      (∀ how now answer, (.finish task.id how now, answer) ∉ before) ∧
      ∀ g', (.grant task.id, .granted g') ∉ before := by
  obtain ⟨first, rest, rfl, rfl, hanswer, rfl⟩ := exists_of_history hhistory
  obtain ⟨e₁, hfind₁, hlived, -, -⟩ :=
    h.play hdistinct hfind (hstays.of_prefix (List.prefix_append first _))
  obtain ⟨e₂, hfind₂⟩ := hstays (first ++ [.grant task.id]) ⟨rest, by simp⟩
  rw [play_append] at hfind₂
  have hbecomes := (hdistinct.play first).becomes hfind₁ hfind₂
  rw [hanswer] at hbecomes
  cases hbecomes with
  | same hgrant => exact absurd rfl (hgrant g)
  | granted hstate =>
    have hopen : e₁.state.isTerminal = false := by rw [hstate]; rfl
    rw [List.nil_append] at hlived
    refine ⟨by rw [hlived.same], ?_, hlived.unfinished hopen, fun g' hg' => ?_⟩
    · by_contra hrequest
      obtain hs | hs := hlived.offered hrequest
      · rw [hstate] at hs
        cases hs
      · rw [hopen] at hs
        cases hs
    · obtain hs | hs := hlived.granted g' hg'
      · rw [hstate] at hs
        cases hs
      · rw [hopen] at hs
        cases hs

/-- From its registration on, and as long as it is in the table, a task only goes forward, an end stands,
and it is granted at most once: with all of its files, after its request and before any end. A refused call
changes nothing, and a call about one task leaves the entries of the others alone. -/
theorem goes_forward_and_granted_once (grace lifetime : Nat) (earlier later : List Call) {task : SharedTask}
    {now : Nat} {table : TaskTable}
    (hregister : (play earlier { grace, lifetime }).register task now = .ok table)
    (hstays : Stays task.id later table) :
    (∀ calls more, calls ++ more <+: later →
      ∃ e e', (play calls table).find? task.id = some e ∧ (play (calls ++ more) table).find? task.id = some e' ∧
        e.task = task ∧ e'.task = task ∧ Relation.ReflTransGen TaskState.Advances e.state e'.state ∧
        (e.state.isTerminal = true → e'.state = e.state ∧ e'.finished = e.finished)) ∧
    (∀ before g after, history later table = before ++ (.grant task.id, .granted g) :: after →
      g = ⟨task.id, task.files⟩ ∧ (.request task.id, .done) ∈ before ∧
        (∀ how now answer, (.finish task.id how now, answer) ∉ before) ∧
        ∀ g', (.grant task.id, .granted g') ∉ before ++ after) ∧
    (∀ (call : Call) (table : TaskTable) e, (call.run table).1 = .refused e → (call.run table).2 = table) ∧
    ∀ (call : Call) (table : TaskTable) id id', call.task? = some id → id' ≠ id →
      (call.run table).2.find? id' = table.find? id' := by
  have hearlier := (distinct_empty grace lifetime).play earlier
  have hdistinct := hearlier.register hregister
  obtain ⟨e, hfind, -, hlived⟩ := lived_register hregister
  refine ⟨fun calls more hinit => ?_, fun before g after hhistory => ?_, fun _ _ _ => run_of_refused,
    fun _ _ _ _ => find?_run_of_ne⟩
  · obtain ⟨e₁, hfind₁, hlived₁, -, -⟩ := hlived.play hdistinct hfind
      (hstays.of_prefix ((List.prefix_append calls more).trans hinit))
    have hmore : Stays task.id more (play calls table) := fun before hbefore => by
      rw [← play_append]
      exact hstays _ (((List.prefix_append_right_inj calls).2 hbefore).trans hinit)
    obtain ⟨e₂, hfind₂, hlived₂, hforward, hends⟩ := hlived₁.play (hdistinct.play calls) hfind₁ hmore
    refine ⟨e₁, e₂, hfind₁, by rw [play_append]; exact hfind₂, hlived₁.same, hlived₂.same, hforward, ?_⟩
    intro hterminal
    rw [hends hterminal]
    exact ⟨rfl, rfl⟩
  · obtain ⟨hgrant, hrequest, hunfinished, hbefore⟩ :=
      hlived.granted_after hdistinct hfind hstays hhistory
    refine ⟨hgrant, hrequest, hunfinished, fun g' hg' => ?_⟩
    obtain hg' | hg' := List.mem_append.1 hg'
    · exact hbefore g' hg'
    · -- a second grant would come after this one
      obtain ⟨between, after', rfl⟩ := List.append_of_mem hg'
      rw [← List.cons_append, ← List.append_assoc] at hhistory
      exact (hlived.granted_after hdistinct hfind hstays hhistory).2.2.2 g (by simp)

/-- A task that is requested, granted and completed, in a table that knew it before. -/
theorem goes_forward_and_granted_once_example :
    let task : SharedTask := { id := "t", files := [.ofBytes "a" "text/plain" []] }
    let earlier : List Call := [.register task 0, .finish "t" .failed 1, .sweep 9]
    let later : List Call := [.grant "t", .request "t", .grant "t", .finish "t" .completed 12]
    ∃ table, (play earlier { grace := 5, lifetime := 60 }).register task 10 = .ok table ∧ Stays task.id later table ∧
      (play later table).state? "t" = some (.ended .completed) ∧
      (.grant "t", .granted ⟨"t", task.files⟩) ∈ history later table ∧
      ∀ call answer, (call, answer) ∈ history later table → ∀ g, (call, answer) = (.grant "t", .granted g) →
        g = ⟨"t", task.files⟩ := by
  intro task earlier later
  have hregister : (play earlier { grace := 5, lifetime := 60 }).register task 10 =
      .ok { grace := 5, lifetime := 60, entries := [⟨task, .offered, 10, none⟩] } := by decide
  have hstays : Stays task.id later { grace := 5, lifetime := 60, entries := [⟨task, .offered, 10, none⟩] } := by
    intro before hbefore
    rw [← List.mem_inits] at hbefore
    fin_cases hbefore
    all_goals exact ⟨_, rfl⟩
  obtain ⟨-, hgranted, -, -⟩ := goes_forward_and_granted_once 5 60 earlier later hregister hstays
  refine ⟨_, hregister, hstays, by decide, .tail _ (.tail _ (.head _)), ?_⟩
  rintro call answer hmem g ⟨⟩
  obtain ⟨before, after, hhistory⟩ := List.append_of_mem hmem
  exact (hgranted before g after hhistory).1

end TaskTable

end DirectShare
