import Mathlib
import DirectShare.Proofs.Task.Lifecycle

/-!
# Sweeping

A sweep takes out the tasks that have ended long enough ago, and those that have not ended in their lifetime. Which
tasks are old enough is decided by the two times of their entries, and the time of an end is noted just when there
is one. What is old enough once stays so: sweeping earlier as well makes no difference to what is left and reported.

`TaskTable.Entry.IsDue` says that an entry is to be swept, and `TaskTable.Timed`, which every call keeps
(`TaskTable.Timed.run`), that the time of an end is noted just when there is one. `TaskTable.sweep_sweep` and
`TaskTable.expired_sweep` compare one sweep with two. `TaskTable.swept_exactly_and_for_good` states what
sweeps take out and report, whatever the calls before.
-/

namespace DirectShare.TaskTable

variable {table table' : TaskTable} {grace lifetime now : Nat} {id : String} {call : Call} {e e' : Entry}
  {how : TaskEnd}

/-- The entry is to be swept, and counts as ended in the given way. Times that lie ahead are no time ago. -/
inductive Entry.IsDue (grace lifetime now : Nat) (e : Entry) : TaskEnd → Prop
  /-- The task was kept long enough after its end. -/
  | ended {how : TaskEnd} {since : Nat} : e.state = .ended how → e.finished = some since → grace ≤ now - since →
      IsDue grace lifetime now e how
  /-- The task has not ended in its lifetime. -/
  | overdue : e.state.isTerminal = false → lifetime ≤ now - e.created → IsDue grace lifetime now e .failed

/-- An entry is swept exactly if it is due. -/
lemma expired?_eq_some_iff : table.expired? now e = some how ↔ e.IsDue table.grace table.lifetime now how := by
  constructor
  · intro h
    rw [expired?] at h
    split at h
    · next hstate hsince =>
      split_ifs at h with hgrace
      cases h
      exact .ended hstate hsince hgrace
    · cases h
    · next hopen hunended =>
      split_ifs at h with hlifetime
      cases h
      refine .overdue ?_ hlifetime
      cases hstate : e.state with
      | ended how' =>
        cases hfinished : e.finished with
        | none => exact absurd hfinished (hunended how' hstate)
        | some since => exact absurd hfinished (hopen how' since hstate)
      | _ => rfl
  · intro h
    cases h with
    | ended hstate hsince hgrace => simp [expired?, hstate, hsince, hgrace]
    | overdue hopen hlifetime =>
      cases hstate : e.state with
      | ended how' =>
        rw [hstate] at hopen
        cases hopen
      | _ => simp [expired?, hstate, hlifetime]

/-- What is to be swept stays so, and counts as ended in the same way. -/
lemma Entry.IsDue.mono {later : Nat} (h : e.IsDue grace lifetime now how) (hlater : now ≤ later) :
    e.IsDue grace lifetime later how := by
  cases h with
  | ended hstate hsince hgrace =>
    apply IsDue.ended hstate hsince
    omega
  | overdue hopen hlifetime =>
    apply IsDue.overdue hopen
    omega

/-- What is due once is due later, and for the same reason. -/
lemma expired?_mono {later : Nat} (h : table.expired? now e = some how) (hlater : now ≤ later) :
    table.expired? later e = some how := by
  rw [expired?_eq_some_iff] at h ⊢
  exact h.mono hlater

/-! ### Sweeping twice -/

/-- After a sweep, a later one finds what the first one has left and what is due by then. -/
lemma expired_sweep_eq (table : TaskTable) (now later : Nat) :
    (table.sweep now).expired later =
      (table.entries.filter fun e => (table.expired? now e).isNone).filterMap fun e =>
        (table.expired? later e).map fun how => (e.task.id, how) := rfl

/-- A sweep leaves nothing different if there was an earlier one. -/
theorem sweep_sweep {later : Nat} (hlater : now ≤ later) : (table.sweep now).sweep later = table.sweep later := by
  have hkept : ∀ e, table.expired? later e = none → table.expired? now e = none := by
    intro e hnone
    cases hnow : table.expired? now e with
    | none => rfl
    | some how =>
      rw [expired?_mono hnow hlater] at hnone
      cases hnone
  simp only [sweep, List.filter_filter, mk.injEq, true_and]
  apply List.filter_congr
  intro e _
  show ((table.expired? later e).isNone && (table.expired? now e).isNone) = _
  cases hlast : table.expired? later e with
  | none => simp [hkept e hlast]
  | some how => rfl

/-- What two sweeps report is what the later one reports alone. -/
theorem expired_sweep {later : Nat} (hlater : now ≤ later) :
    (table.expired now ++ (table.sweep now).expired later).Perm (table.expired later) := by
  -- What the earlier sweep takes out is reported in the same way by the later one.
  have hreported : table.expired now =
      (table.entries.filter fun e => !(table.expired? now e).isNone).filterMap fun e =>
        (table.expired? later e).map fun how => (e.task.id, how) := by
    rw [expired, List.filterMap_filter]
    apply List.filterMap_congr
    intro e _
    cases hnow : table.expired? now e with
    | none => rfl
    | some how => simp [expired?_mono hnow hlater]
  rw [hreported, expired_sweep_eq, ← List.filterMap_append]
  apply List.Perm.filterMap
  exact List.perm_append_comm.trans (List.filter_append_perm _ _)

/-! ### The times of the ends -/

/-- The time of an end is noted just when there is one. -/
def Timed (table : TaskTable) : Prop :=
  ∀ id e, table.find? id = some e → e.finished.isSome = e.state.isTerminal

/-- A call keeps the time of an end noted just when there is one. -/
lemma Entry.Becomes.timed {answer : Answer} (h : e.Becomes id call answer e')
    (htimed : e.finished.isSome = e.state.isTerminal) : e'.finished.isSome = e'.state.isTerminal := by
  cases h with
  | requested hstate =>
    have hopen : e.state.isTerminal = false := by obtain hs | hs := hstate <;> rw [hs] <;> rfl
    exact htimed.trans hopen
  | granted hstate =>
    have hopen : e.state.isTerminal = false := by rw [hstate]; rfl
    exact htimed.trans hopen
  | finished => rfl
  | same => exact htimed

/-- A task is registered with no end. -/
lemma find?_register_self {task : SharedTask} (h : table.register task now = .ok table') :
    table'.find? task.id = some ⟨task, .offered, now, none⟩ := by
  have hnone := find?_of_register h
  rw [register, hnone] at h
  cases h
  rw [find?] at hnone
  simp [find?, List.find?_append, hnone]

/-- Every call keeps the times of the ends. -/
theorem Timed.run (htimed : table.Timed) (hdistinct : table.Distinct) (call : Call) : (call.run table).2.Timed := by
  intro id e' hfind'
  cases hfind : table.find? id with
  | some e => exact (hdistinct.becomes hfind hfind').timed (htimed id e hfind)
  | none =>
    by_cases hnew : ∃ task now, call = .register task now ∧ task.id = id
    · obtain ⟨task, now, rfl, rfl⟩ := hnew
      cases hregister : table.register task now with
      | error reason =>
        simp only [Call.run, hregister, attempt] at hfind'
        rw [hfind] at hfind'
        cases hfind'
      | ok table' =>
        simp only [Call.run, hregister, attempt, find?_register_self hregister] at hfind'
        cases hfind'
        rfl
    · rw [find?_run_of_none (fun task now hcall hid => hnew ⟨task, now, hcall, hid⟩) hfind] at hfind'
      cases hfind'

/-- Any calls keep the times of the ends noted. -/
lemma Timed.play (htimed : table.Timed) (hdistinct : table.Distinct) (calls : List Call) :
    (play calls table).Timed := by
  induction calls generalizing table with
  | nil => exact htimed
  | cons call calls ih => exact ih (htimed.run hdistinct call) (hdistinct.run call)

/-- In an empty table there is no end to note. -/
lemma timed_empty (grace lifetime : Nat) : Timed { grace, lifetime } := by
  intro id e hfind
  cases hfind

/-! ### What a sweep takes out -/

/-- No call changes how long tasks are kept. -/
lemma spans_run (call : Call) (table : TaskTable) :
    (call.run table).2.grace = table.grace ∧ (call.run table).2.lifetime = table.lifetime := by
  have hchanges := changes_run call table
  revert hchanges
  generalize (call.run table).2 = table'
  intro hchanges
  cases hchanges <;> exact ⟨rfl, rfl⟩

/-- No call changes how long tasks are kept. -/
lemma spans_play (calls : List Call) (table : TaskTable) :
    (play calls table).grace = table.grace ∧ (play calls table).lifetime = table.lifetime := by
  induction calls generalizing table with
  | nil => exact ⟨rfl, rfl⟩
  | cons call calls ih =>
    obtain ⟨hgrace, hlifetime⟩ := spans_run call table
    obtain ⟨hgrace', hlifetime'⟩ := ih (call.run table).2
    exact ⟨hgrace'.trans hgrace, hlifetime'.trans hlifetime⟩

/-- A sweep leaves the entries that are not to be swept, as they are. -/
lemma Distinct.find?_sweep (h : table.Distinct) (now : Nat) (id : String) (e : Entry) :
    (table.sweep now).find? id = some e ↔
      table.find? id = some e ∧ ∀ how, ¬e.IsDue table.grace table.lifetime now how := by
  have hswept : (table.sweep now).Distinct := h.of_sublist List.filter_sublist
  rw [hswept.find?_eq_some_iff, h.find?_eq_some_iff]
  simp only [sweep, List.mem_filter, Option.isNone_iff_eq_none, Option.eq_none_iff_forall_not_mem, Option.mem_def,
    expired?_eq_some_iff]
  tauto

/-- A sweep reports the entries that are to be swept. -/
lemma Distinct.mem_expired (h : table.Distinct) (now : Nat) (id : String) (how : TaskEnd) :
    (id, how) ∈ table.expired now ↔
      ∃ e, table.find? id = some e ∧ e.IsDue table.grace table.lifetime now how := by
  simp only [h.find?_eq_some_iff, expired, List.mem_filterMap, Option.map_eq_some_iff, Prod.mk.injEq,
    expired?_eq_some_iff]
  constructor
  · rintro ⟨e, he, how, hdue, rfl, rfl⟩
    exact ⟨e, ⟨he, rfl⟩, hdue⟩
  · rintro ⟨e, ⟨he, rfl⟩, hdue⟩
    exact ⟨e, he, how, hdue, rfl, rfl⟩

/-- A sweep reports no task twice. -/
lemma Distinct.nodup_expired (h : table.Distinct) (now : Nat) : ((table.expired now).map Prod.fst).Nodup := by
  have hnames : ((table.expired now).map Prod.fst).Sublist (table.entries.map (·.task.id)) := by
    simp only [expired, List.map_filterMap]
    induction table.entries with
    | nil => exact List.Sublist.slnil
    | cons e entries ih =>
      cases hdue : table.expired? now e with
      | none => simpa [hdue] using ih.cons e.task.id
      | some how => simpa [hdue] using ih
  exact hnames.nodup h

/-- **Sweeping is exact, and it does not matter how often it is done.** Take a table of tasks after any calls of
any clients at any times, whatever its grace and lifetime. The time of an end is noted just when a task has ended.
A sweep takes out the tasks that ended at least the grace ago and those that have not ended and were registered at
least the lifetime ago; the other entries stay as they are. It reports each task that it takes out once: with the
way in which it ended, and as failed if it has not ended. Sweeping early and again later leaves the same table, and
reports the same in all, as sweeping later only. And no task is kept for ever. -/
theorem swept_exactly_and_for_good (grace lifetime : Nat) (calls : List Call) :
    let table := play calls { grace, lifetime }
    (∀ id e, table.find? id = some e → (e.finished.isSome = true ↔ e.state.isTerminal = true)) ∧
    (∀ now id e, (table.sweep now).find? id = some e ↔
      table.find? id = some e ∧ ∀ how, ¬e.IsDue grace lifetime now how) ∧
    (∀ now, ((table.expired now).map Prod.fst).Nodup ∧
      ∀ id how, (id, how) ∈ table.expired now ↔ ∃ e, table.find? id = some e ∧ e.IsDue grace lifetime now how) ∧
    (∀ now later, now ≤ later → (table.sweep now).sweep later = table.sweep later ∧
      (table.expired now ++ (table.sweep now).expired later).Perm (table.expired later)) ∧
    ∀ id e, table.find? id = some e → ∀ now, e.created + lifetime ≤ now →
      (∀ since, e.finished = some since → since + grace ≤ now) → (table.sweep now).find? id = none := by
  intro table
  have hdistinct : table.Distinct := (distinct_empty grace lifetime).play calls
  have htimed : table.Timed := (timed_empty grace lifetime).play (distinct_empty grace lifetime) calls
  obtain ⟨hgrace, hlifetime⟩ : table.grace = grace ∧ table.lifetime = lifetime := spans_play calls _
  have hswept := hdistinct.find?_sweep
  have hreported := hdistinct.mem_expired
  rw [hgrace, hlifetime] at hswept hreported
  refine ⟨?_, hswept, fun now => ⟨hdistinct.nodup_expired now, hreported now⟩, ?_, ?_⟩
  · intro id e hfind
    rw [htimed id e hfind]
  · intro now later hlater
    exact ⟨sweep_sweep hlater, expired_sweep hlater⟩
  · intro id e hfind now hcreated hfinished
    -- An entry that is left is due at this time, by whichever of its two times counts.
    rw [Option.eq_none_iff_forall_not_mem]
    intro e' hleft
    obtain ⟨hfind', hkept⟩ := (hswept now id e').1 hleft
    obtain rfl : e = e' := Option.some.inj (hfind.symm.trans hfind')
    cases hopen : e.state.isTerminal with
    | false =>
      apply hkept
      apply Entry.IsDue.overdue hopen
      omega
    | true =>
      obtain ⟨since, hsince⟩ := Option.isSome_iff_exists.1 ((htimed id e hfind).trans hopen)
      have hlong := hfinished since hsince
      cases hstate : e.state with
      | ended how =>
        apply hkept
        apply Entry.IsDue.ended hstate hsince
        omega
      | _ =>
        rw [hstate] at hopen
        cases hopen

/-- A completed task and a stuck one, swept before both are old enough and afterwards. -/
theorem swept_exactly_and_for_good_stuck :
    let calls : List Call :=
      [.register { id := "done" } 0, .register { id := "stuck" } 1, .finish "done" .completed 3]
    let table := play calls { grace := 5, lifetime := 60 }
    table.expired 8 = [("done", .completed)] ∧ (table.sweep 8).expired 61 = [("stuck", .failed)] ∧ 8 ≤ 61 ∧
      (table.sweep 8).sweep 61 = table.sweep 61 ∧ (table.sweep 61).find? "stuck" = none := by
  intro calls table
  obtain ⟨-, -, -, htwice, hgone⟩ := swept_exactly_and_for_good 5 60 calls
  obtain ⟨hsame, -⟩ := htwice 8 61 (by decide)
  refine ⟨by decide, by decide, by decide, hsame, ?_⟩
  exact hgone "stuck" ⟨{ id := "stuck" }, .offered, 1, none⟩ (by decide) 61 (by decide) (by simp)

end DirectShare.TaskTable
