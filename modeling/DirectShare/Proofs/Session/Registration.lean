import Mathlib
import DirectShare.Proofs.Session.Exchange
import DirectShare.Proofs.Session.Lifecycle
import DirectShare.Proofs.Task.Lifecycle

/-!
# A sender and its task in the table

A sender shares the table of tasks with other clients, who may be granted any task, take it out or sweep
the table at any moment. As long as nobody else registers, requests or finishes the task of the sender, its
state in the table follows the stage of the sender, and the task is granted at most once, between the
moment the sender allows it and the end of the session.

A `Desk` has a sender and a table, with what was said so far, and `Desk.InStep` lists the states of a task
that go with a stage. Two invariants carry the result: `Desk.Kept` relates the sender to the table, and
`Desk.Told` relates both to what was said. `Desk.step_keeps` keeps both under the events of the sender and the
calls of others, and `Desk.in_step_and_granted_once` is what holds at every desk.
-/

namespace DirectShare

open TaskTable (Call Answer)

/-- What has happened at a desk. -/
inductive Desk.Note where
  /-- The sender has said something. -/
  | said (intent : Sender.Intent)
  /-- Another client was answered. -/
  | answered (call : Call) (answer : Answer)

/-- A sender, and the table that it shares with other clients. -/
structure Desk where
  sender : Sender
  table : TaskTable
  /-- What has happened so far. -/
  past : List Desk.Note := []

namespace Desk

/-- What an event makes of the sender. -/
def senderDoes (d : Desk) (env : Surroundings) (event : Sender.Event) : Desk :=
  let t := d.sender.handle env event d.table
  { sender := t.session, table := t.table, past := d.past ++ t.intents.map .said }

/-- What a call of another client makes of the table. -/
def clientDoes (d : Desk) (call : Call) : Desk :=
  { d with
    table := (call.run d.table).2
    past := d.past ++ [.answered call (call.run d.table).1] }

/-- One event of the sender, whose task is the given one, or one call of another client, who may be granted
that task or take it out, but does nothing else to it. -/
inductive Step (task : SharedTask) : Desk → Desk → Prop
  | sender (d : Desk) (env : Surroundings) (event : Sender.Event) :
      (∀ task' network, d.sender.stage = .idle → event = .begin task' network → task' = task) →
      Step task d (d.senderDoes env event)
  | client (d : Desk) (call : Call) :
      (call.task? = some task.id → call = .grant task.id ∨ call = .remove task.id) →
      Step task d (d.clientDoes call)

/-- A sender before its first event, with a table that was in use before. -/
def start (settings : Settings) (id : String) (table : TaskTable) : Desk :=
  { sender := { settings, id }, table }

/-- The states of a task that go with a stage of its sender. -/
def InStep : Sender.Stage → TaskState → Prop
  | .idle, _ => False
  | .advertising, state => state = .offered
  | .credentialsWritten, state => state = .offered
  | .networkJoinObserved, state => state = .offered
  | .handshakeConnected, state => state = .offered
  | .requestSent, state => state = .offered
  | .requestAcked, state => state = .requested ∨ state = .serving
  | .serving, state => state = .requested ∨ state = .serving
  | .completed, state => state = .ended .completed
  | .failed e, state => e ≠ .aborted ∧ state = .ended .failed

/-- The note says that the task was granted. -/
def Note.grants (id : String) (g : TaskTable.Grant) : Note := .answered (.grant id) (.granted g)

/-! ### The table -/

/-- The entry of the task is in step with the sender. -/
structure Kept (task : SharedTask) (s : Sender) (table : TaskTable) : Prop where
  distinct : table.Distinct
  sender : s.Coherent
  job : ∀ j, s.job = some j → j.taskId = task.id
  entry : ∀ e, table.find? task.id = some e → e.task = task ∧ InStep s.stage e.state

variable {task : SharedTask} {s s' : Sender} {table table' : TaskTable} {env : Surroundings}
  {event : Sender.Event} {t : Sender.Turn} {d : Desk}

/-- While a sender goes on, its task has not ended. -/
lemma InStep.isTerminal {stage : Sender.Stage} {state : TaskState} (h : InStep stage state)
    (hopen : stage.isTerminal = false) : state.isTerminal = false := by
  cases stage with
  | idle => exact h.elim
  | requestAcked => obtain rfl | rfl := h <;> rfl
  | serving => obtain rfl | rfl := h <;> rfl
  | completed => cases hopen
  | failed e => cases hopen
  | _ => cases h; rfl

/-- A task that its sender ends has ended in that way. -/
lemma Kept.finish (h : Kept task s table) (hs : s.stage.isTerminal = false) (how : TaskEnd) (now : Nat)
    {e' : TaskTable.Entry} (hfind : ((Call.finish task.id how now).run table).2.find? task.id = some e') :
    e'.task = task ∧ e'.state = .ended how := by
  obtain ⟨e, hfound, hbecomes⟩ := h.distinct.exists_becomes (by rintro _ _ ⟨⟩) hfind
  obtain ⟨htask, hin⟩ := h.entry e hfound
  obtain ⟨hsame, hended⟩ := hbecomes.ended (hin.isTerminal hs)
  exact ⟨hsame.trans htask, hended⟩

/-- A sender that has not begun has no task in the table. -/
lemma Kept.find?_eq_none (h : Kept task s table) (hs : s.stage.isTerminal = false) (hj : s.job = none) :
    table.find? task.id = none := by
  have hidle : s.stage = .idle := by
    by_contra hne
    have hsome := h.sender.job hs hne
    rw [hj] at hsome
    cases hsome
  cases hfind : table.find? task.id with
  | none => rfl
  | some e =>
    have hin := (h.entry e hfind).2
    rw [hidle] at hin
    exact hin.elim

/-- A sender that fails marks its task. -/
lemma Kept.fail (h : Kept task s t.table) (hs : s.stage.isTerminal = false) {e : Failure} (he : e ≠ .aborted)
    (hjob : t.session.job = s.job) : Kept task (Sender.fail env e t).session (Sender.fail env e t).table := by
  have hjob' : ∀ j, (Sender.fail env e t).session.job = some j → j.taskId = task.id :=
    fun j hj => h.job j (hjob ▸ hj)
  cases hj : s.job with
  | none =>
    have htable : (Sender.fail env e t).table = t.table := by simp only [Sender.fail, hjob, hj]
    rw [htable]
    refine ⟨h.distinct, Sender.coherent_fail e t, hjob', fun e' hfind => ?_⟩
    exact absurd (hfind.symm.trans (h.find?_eq_none hs hj)) nofun
  | some j =>
    have htable : (Sender.fail env e t).table = ((Call.finish task.id .failed env.now).run t.table).2 := by
      simp only [Sender.fail, hjob, hj, h.job j hj, Call.run]
      cases t.table.finish task.id .failed env.now <;> rfl
    rw [htable]
    refine ⟨h.distinct.run _, Sender.coherent_fail e t, hjob', fun e' hfind => ?_⟩
    obtain ⟨htask, hended⟩ := h.finish hs _ _ hfind
    exact ⟨htask, he, hended⟩

/-- A sender that gives up takes its task out of the table. -/
lemma Kept.giveUp (h : Kept task s table) (hs : s.stage.isTerminal = false)
    (hcoherent : (Sender.giveUp { session := s, table }).session.Coherent) :
    Kept task (Sender.giveUp { session := s, table }).session (Sender.giveUp { session := s, table }).table := by
  cases hj : s.job with
  | none =>
    have htable : (Sender.giveUp { session := s, table }).table = table := by simp only [Sender.giveUp, hj]
    rw [htable]
    refine ⟨h.distinct, hcoherent, h.job, fun e' hfind => ?_⟩
    exact absurd (hfind.symm.trans (h.find?_eq_none hs hj)) nofun
  | some j =>
    have htable : (Sender.giveUp { session := s, table }).table = ((Call.remove task.id).run table).2 := by
      simp only [Sender.giveUp, hj, h.job j hj, Call.run]
    rw [htable]
    refine ⟨h.distinct.run _, hcoherent, h.job, fun e' hfind => ?_⟩
    have hgone := TaskTable.find?_remove table task.id task.id
    rw [if_pos rfl] at hgone
    exact absurd (hfind.symm.trans hgone) nofun

/-- The event of a sender keeps its task in step. -/
lemma Kept.answers (h : Kept task s table) (hs : s.stage.isTerminal = false)
    (hbegin : ∀ task' network, s.stage = .idle → event = .begin task' network → task' = task)
    (hturn : Sender.Answers env s table event t) (hcoherent : t.session.Coherent) :
    Kept task t.session t.table := by
  -- between the registration and the request the entry stays as it is
  have hsame : ∀ s' : Sender, s'.Coherent → s'.job = s.job → InStep s'.stage = InStep s.stage →
      Kept task s' table := by
    intro s' hcoherent' hjob hin
    exact ⟨h.distinct, hcoherent', hjob ▸ h.job, by rw [hin]; exact h.entry⟩
  cases hturn with
  | began hidle hport hsize hregister =>
    obtain rfl := hbegin _ _ hidle rfl
    refine ⟨h.distinct.register hregister, hcoherent, ?_, fun e hfind => ?_⟩
    · rintro j ⟨⟩
      rfl
    · obtain ⟨e', hfind', hoffered, hlived⟩ := TaskTable.lived_register hregister
      obtain rfl : e = e' := Option.some.inj (hfind.symm.trans hfind')
      exact ⟨hlived.same, hoffered⟩
  | crashed => exact hsame _ hcoherent rfl rfl
  | described hadvertising => exact hsame _ hcoherent rfl rfl
  | awaits hadvertising => exact hsame _ hcoherent rfl (by rw [hadvertising]; rfl)
  | joined hwritten => exact hsame _ hcoherent rfl (by rw [hwritten]; rfl)
  | offered hjoined => exact hsame _ hcoherent rfl (by rw [hjoined]; rfl)
  | announced hconnected => exact hsame _ hcoherent rfl (by rw [hconnected]; rfl)
  | unannounced channel _ _ _ _ _ _ he => exact Kept.fail h hs he.2.2 rfl
  | @authorized bytes body j channel table' hsent hreceive hjob hrequest =>
    have hid := h.job j hjob
    rw [hid] at hrequest
    have htable : table' = ((Call.request task.id).run table).2 := by
      simp only [Call.run, hrequest]
      rfl
    refine ⟨htable ▸ h.distinct.run _, hcoherent, h.job, fun e hfind => ?_⟩
    have hrequested : table'.state? task.id = some e.state := by
      have hfind : table'.find? task.id = some e := hfind
      rw [TaskTable.state?, hfind]
      rfl
    rw [TaskTable.state?_request hrequest] at hrequested
    have hfind : table'.find? task.id = some e := hfind
    rw [htable] at hfind
    obtain ⟨e', hfound, hbecomes⟩ := h.distinct.exists_becomes (by rintro _ _ ⟨⟩) hfind
    exact ⟨hbecomes.advances.1.trans (h.entry e' hfound).1, .inl (Option.some.inj hrequested).symm⟩
  | serves hacked => exact hsame _ hcoherent rfl (by rw [hacked]; rfl)
  | @completed bytes ack sequence body report j ch₁ ch₂ table' hstage hreceive hread hjob htask hack hok hfinish =>
    have hid := h.job j hjob
    rw [hid] at hfinish
    have htable : table' = ((Call.finish task.id .completed env.now).run table).2 := by
      simp only [Call.run, hfinish]
      rfl
    refine ⟨htable ▸ h.distinct.run _, hcoherent, h.job, fun e hfind => ?_⟩
    have hfind : table'.find? task.id = some e := hfind
    rw [htable] at hfind
    exact h.finish hs _ _ hfind
  | @reported bytes ack sequence body report j ch₁ ch₂ e hstage hreceive hread hjob htask hack hcause =>
    refine Kept.fail h hs ?_ rfl
    obtain hfailure | ⟨-, te, -, rfl⟩ := hcause
    · rintro rfl
      rw [Sender.reportFailure?] at hfailure
      split at hfailure <;> cases hfailure
    · simp
  | failed channel used he => exact Kept.fail h hs he.2.2 rfl
  | gaveUp => exact h.giveUp hs hcoherent

/-- A grant takes the task from requested to serving, and nothing else does that another client may do. -/
lemma Kept.becomes (h : Kept task s table) {call : Call}
    (hcall : call.task? = some task.id → call = .grant task.id ∨ call = .remove task.id)
    {e' : TaskTable.Entry} (hfind : (call.run table).2.find? task.id = some e') :
    ∃ e, table.find? task.id = some e ∧ e'.task = e.task ∧
      (e'.state = e.state ∨ e.state = .requested ∧ e'.state = .serving) := by
  have hnew : ∀ task' now, call = .register task' now → task'.id ≠ task.id := by
    rintro task' now rfl hid
    obtain hother | hother := hcall (congrArg some hid) <;> cases hother
  obtain ⟨e, hfound, hbecomes⟩ := h.distinct.exists_becomes hnew hfind
  refine ⟨e, hfound, hbecomes.advances.1, ?_⟩
  generalize (call.run table).1 = answer at hbecomes
  cases hbecomes with
  | requested => obtain hother | hother := hcall rfl <;> cases hother
  | granted hrequested => exact .inr ⟨hrequested, rfl⟩
  | finished => obtain hother | hother := hcall rfl <;> cases hother
  | same => exact .inl rfl

/-- A task that was requested is that of a sender which waits for the report. -/
lemma InStep.of_requested {stage : Sender.Stage} (h : InStep stage .requested) :
    stage = .requestAcked ∨ stage = .serving := by
  cases stage with
  | idle => exact h.elim
  | requestAcked => exact .inl rfl
  | serving => exact .inr rfl
  | failed e => cases h.2
  | _ => cases h

/-- A call of another client keeps the task in step. -/
lemma Kept.client (h : Kept task s table) {call : Call}
    (hcall : call.task? = some task.id → call = .grant task.id ∨ call = .remove task.id) :
    Kept task s (call.run table).2 := by
  refine ⟨h.distinct.run call, h.sender, h.job, fun e' hfind => ?_⟩
  obtain ⟨e, hfound, htask, hstate⟩ := h.becomes hcall hfind
  obtain ⟨htask', hin⟩ := h.entry e hfound
  refine ⟨htask.trans htask', ?_⟩
  obtain hsame | ⟨hrequested, hserving⟩ := hstate
  · rw [hsame]
    exact hin
  · rw [hrequested] at hin
    rw [hserving]
    obtain hstage | hstage := hin.of_requested
    · rw [hstage]
      exact .inr rfl
    · rw [hstage]
      exact .inr rfl

/-! ### What was said -/

/-- What was said so far agrees with the sender and the table. -/
structure Told (task : SharedTask) (d : Desk) : Prop where
  /-- The task may be downloaded if the sender has said so. -/
  authorized : d.sender.stage = .requestAcked ∨ d.sender.stage = .serving →
    .said (.serveAuthorized task.id) ∈ d.past
  /-- A sender that has not ended has not said so. -/
  unfinished : d.sender.stage.isTerminal = false → ∀ result, .said (.finished result) ∉ d.past
  /-- Nothing is granted before the sender begins. -/
  ungranted : d.sender.stage = .idle → ∀ g, .grants task.id g ∉ d.past
  /-- A task that was granted is served, or has ended. -/
  granted : ∀ g, .grants task.id g ∈ d.past → ∀ e, d.table.find? task.id = some e →
    e.state = .serving ∨ e.state.isTerminal = true
  /-- Each grant is the only one, and has its time. -/
  grants : ∀ before g after, d.past = before ++ .grants task.id g :: after →
    g = ⟨task.id, task.files⟩ ∧ .said (.serveAuthorized task.id) ∈ before ∧
      (∀ result, .said (.finished result) ∉ before) ∧ ∀ g', .grants task.id g' ∉ before ++ after

/-- What a sender says on its way. -/
structure Says (task : SharedTask) (s : Sender) (table : TaskTable) (t : Sender.Turn) : Prop where
  authorized : t.session.stage = .requestAcked ∨ t.session.stage = .serving →
    (s.stage = .requestAcked ∨ s.stage = .serving) ∨ .serveAuthorized task.id ∈ t.intents
  idle : t.session.stage = .idle → s.stage = .idle
  table : t.session.stage.isTerminal = false →
    t.table = table ∨ s.stage = .idle ∨ ∃ e, table.find? task.id = some e ∧ e.state = .offered

/-- What a sender says agrees with what it does to the table. -/
lemma Kept.says (h : Kept task s table) (hturn : Sender.Answers env s table event t) :
    Says task s table t := by
  cases hturn with
  | began hidle => exact ⟨by simp, by simp, fun _ => .inr (.inl hidle)⟩
  | crashed => exact ⟨.inl, id, fun _ => .inl rfl⟩
  | described hadvertising => exact ⟨by simp [hadvertising], by simp [hadvertising], fun _ => .inl rfl⟩
  | awaits => exact ⟨by simp, by simp, fun _ => .inl rfl⟩
  | joined => exact ⟨by simp, by simp, fun _ => .inl rfl⟩
  | offered => exact ⟨by simp, by simp, fun _ => .inl rfl⟩
  | announced => exact ⟨by simp, by simp, fun _ => .inl rfl⟩
  | unannounced => exact ⟨by simp [Sender.fail], by simp [Sender.fail], by simp [Sender.fail, Sender.Stage.isTerminal]⟩
  | @authorized bytes body j channel table' hsent hreceive hjob hrequest =>
    have hid := h.job j hjob
    refine ⟨fun _ => .inr (by simp [hid]), by simp, fun _ => .inr (.inr ?_)⟩
    cases hfind : table.find? task.id with
    | none =>
      rw [hid, TaskTable.request, TaskTable.state?, hfind] at hrequest
      cases hrequest
    | some e =>
      have hin := (h.entry e hfind).2
      rw [hsent] at hin
      exact ⟨e, rfl, hin⟩
  | serves hacked => exact ⟨fun _ => .inl (.inl hacked), by simp, fun _ => .inl rfl⟩
  | completed => exact ⟨by simp, by simp, by simp [Sender.Stage.isTerminal]⟩
  | reported => exact ⟨by simp [Sender.fail], by simp [Sender.fail], by simp [Sender.fail, Sender.Stage.isTerminal]⟩
  | failed => exact ⟨by simp [Sender.fail], by simp [Sender.fail], by simp [Sender.fail, Sender.Stage.isTerminal]⟩
  | gaveUp => exact ⟨by simp [Sender.giveUp], by simp [Sender.giveUp], by simp [Sender.giveUp, Sender.Stage.isTerminal]⟩

/-- When a sender has ended, its task has ended. -/
lemma InStep.isTerminal_of_isTerminal {stage : Sender.Stage} {state : TaskState} (h : InStep stage state)
    (hended : stage.isTerminal = true) : state.isTerminal = true := by
  cases stage with
  | completed => cases h; rfl
  | failed e => cases h.2; rfl
  | _ => cases hended

/-- A grant is no intent of the sender. -/
lemma mem_past_of_grants {past : List Note} {intents : List Sender.Intent} {id : String} {g : TaskTable.Grant}
    (h : .grants id g ∈ past ++ intents.map .said) : .grants id g ∈ past := by
  simpa [Note.grants] using h

/-- What was said first and last splits where something in between stands. -/
lemma split_past {past notes before after : List Note} {x : Note} (h : past ++ notes = before ++ x :: after) :
    (∃ after', past = before ++ x :: after' ∧ after = after' ++ notes) ∨
      ∃ front, before = past ++ front ∧ notes = front ++ x :: after := by
  obtain ⟨front, hbefore, hnotes⟩ | ⟨back, hpast, hback⟩ := List.append_eq_append_iff.1 h
  · exact .inr ⟨front, hbefore, hnotes⟩
  · cases back with
    | nil => exact .inr ⟨[], by simpa using hpast.symm, by simpa using hback.symm⟩
    | cons y back =>
      obtain ⟨rfl, rfl⟩ := List.cons.inj hback
      exact .inl ⟨back, hpast, rfl⟩

/-- What the sender says agrees with what was said before. -/
lemma Told.senderDoes (h : Told task d) (hkept : Kept task d.sender d.table)
    (hkept' : Kept task (d.senderDoes env event).sender (d.senderDoes env event).table)
    (hs : d.sender.stage.isTerminal = false) : Told task (d.senderDoes env event) := by
  have hturn := Sender.handle_answers env d.table hs event
  have htold := hkept.says hturn
  refine ⟨fun hstage => ?_, fun hopen result hmem => ?_, fun hidle g hg => ?_, fun g hg e' hfind => ?_,
    fun before g after hpast => ?_⟩
  · obtain hold | hnew := htold.authorized hstage
    · exact List.mem_append_left _ (h.authorized hold)
    · exact List.mem_append_right _ (List.mem_map_of_mem hnew)
  · obtain hold | hnew := List.mem_append.1 hmem
    · exact h.unfinished hs result hold
    · obtain ⟨i, hi, hsaid⟩ := List.mem_map.1 hnew
      cases hsaid
      exact Sender.not_finished_of_answers hturn hopen result hi
  · exact h.ungranted (htold.idle hidle) g (mem_past_of_grants hg)
  · have hg := mem_past_of_grants hg
    have hin := (hkept'.entry e' hfind).2
    cases hopen : (d.senderDoes env event).sender.stage.isTerminal with
    | true => exact .inr (hin.isTerminal_of_isTerminal hopen)
    | false =>
      obtain hsame | hidle | ⟨e, hfound, hoffered⟩ := htold.table hopen
      · have hfind : (d.sender.handle env event d.table).table.find? task.id = some e' := hfind
        rw [hsame] at hfind
        exact h.granted g hg e' hfind
      · exact absurd hg (h.ungranted hidle g)
      · obtain hserving | hended := h.granted g hg e hfound
        · rw [hoffered] at hserving
          cases hserving
        · rw [hoffered] at hended
          cases hended
  · obtain ⟨after', hpast', rfl⟩ | ⟨front, -, hnotes⟩ := split_past hpast
    · obtain ⟨hfiles, hauthorized, hunfinished, honce⟩ := h.grants before g after' hpast'
      refine ⟨hfiles, hauthorized, hunfinished, fun g' hg' => honce g' ?_⟩
      rw [← List.append_assoc] at hg'
      exact mem_past_of_grants hg'
    · have hsaid : Note.grants task.id g ∈ [] ++ (d.sender.handle env event d.table).intents.map .said := by
        rw [hnotes]
        simp
      exact absurd (mem_past_of_grants hsaid) List.not_mem_nil

/-- What other clients are answered agrees with what was said before. -/
lemma Told.clientDoes (h : Told task d) (hkept : Kept task d.sender d.table) {call : Call}
    (hcall : call.task? = some task.id → call = .grant task.id ∨ call = .remove task.id) :
    Told task (d.clientDoes call) := by
  -- a grant hits a requested task, which was not granted before
  have hgrant : ∀ g, .grants task.id g = Note.answered call (call.run d.table).1 →
      (d.sender.stage = .requestAcked ∨ d.sender.stage = .serving) ∧ g = ⟨task.id, task.files⟩ ∧
        (∀ g', .grants task.id g' ∉ d.past) ∧
        ∀ e', (call.run d.table).2.find? task.id = some e' → e'.state = .serving := by
    intro g hnote
    obtain ⟨rfl, hanswer⟩ := Note.answered.inj hnote
    obtain ⟨e, hfound, hrequested, rfl, hserving⟩ := TaskTable.exists_of_granted hanswer.symm
    obtain ⟨htask, hin⟩ := hkept.entry e hfound
    rw [hrequested] at hin
    refine ⟨hin.of_requested, by rw [htask], fun g' hg' => ?_, fun e' hfind => ?_⟩
    · obtain hstate | hstate := h.granted g' hg' e hfound
      · rw [hrequested] at hstate
        cases hstate
      · rw [hrequested] at hstate
        cases hstate
    · rw [hserving] at hfind
      cases hfind
      rfl
  refine ⟨fun hstage => List.mem_append_left _ (h.authorized hstage), fun hopen result hmem => ?_,
    fun hidle g hg => ?_, fun g hg e' hfind => ?_, fun before g after hpast => ?_⟩
  · obtain hold | hnew := List.mem_append.1 hmem
    · exact h.unfinished hopen result hold
    · cases List.mem_singleton.1 hnew
  · obtain hold | hnew := List.mem_append.1 hg
    · exact h.ungranted hidle g hold
    · have hidle : d.sender.stage = .idle := hidle
      obtain ⟨hstage | hstage, -⟩ := hgrant g (List.mem_singleton.1 hnew)
      · rw [hidle] at hstage
        cases hstage
      · rw [hidle] at hstage
        cases hstage
  · obtain hold | hnew := List.mem_append.1 hg
    · obtain ⟨e, hfound, -, hsame | ⟨hrequested, hserving⟩⟩ := hkept.becomes hcall hfind
      · rw [hsame]
        exact h.granted g hold e hfound
      · exact .inl hserving
    · exact .inl ((hgrant g (List.mem_singleton.1 hnew)).2.2.2 e' hfind)
  · obtain ⟨after', hpast', rfl⟩ | ⟨front, rfl, hnotes⟩ := split_past hpast
    · obtain ⟨hfiles, hauthorized, hunfinished, honce⟩ := h.grants before g after' hpast'
      refine ⟨hfiles, hauthorized, hunfinished, fun g' hg' => ?_⟩
      rw [← List.append_assoc] at hg'
      obtain hold | hnew := List.mem_append.1 hg'
      · exact honce g' hold
      · exact (hgrant g' (List.mem_singleton.1 hnew)).2.2.1 g (by rw [hpast']; simp)
    · cases front with
      | cons y front => simp at hnotes
      | nil =>
        obtain ⟨hnote, rfl⟩ := List.cons.inj hnotes
        obtain ⟨hstage, hfiles, hfresh, -⟩ := hgrant g hnote.symm
        have hopen : d.sender.stage.isTerminal = false := by
          obtain hs | hs := hstage
          · rw [hs]
            rfl
          · rw [hs]
            rfl
        rw [List.append_nil]
        refine ⟨hfiles, h.authorized hstage, h.unfinished hopen, fun g' hg' => hfresh g' ?_⟩
        simpa using hg'

/-- At a desk whose sender has ended nothing is said any more. -/
lemma senderDoes_of_isTerminal (hs : d.sender.stage.isTerminal = true) (event : Sender.Event) :
    d.senderDoes env event = d := by
  simp [senderDoes, Sender.handle_of_isTerminal hs]

/-- Every step keeps the sender and its task in step. -/
theorem step_keeps {d' : Desk} (hkept : Kept task d.sender d.table) (htold : Told task d)
    (hstep : Step task d d') : Kept task d'.sender d'.table ∧ Told task d' := by
  cases hstep with
  | sender env event hbegin =>
    cases hs : d.sender.stage.isTerminal with
    | true =>
      rw [senderDoes_of_isTerminal hs]
      exact ⟨hkept, htold⟩
    | false =>
      have hkept' : Kept task (d.senderDoes env event).sender (d.senderDoes env event).table :=
        hkept.answers hs hbegin (Sender.handle_answers env d.table hs event) hkept.sender.handle
      exact ⟨hkept', htold.senderDoes hkept hkept' hs⟩
  | client call hcall => exact ⟨hkept.client hcall, htold.clientDoes hkept hcall⟩

/-! ### A task that is served -/

section Run

open Handshake Exchange

variable {past : List Note} {intents : List Sender.Intent} {used : Bool}

/-- An event of the sender is a step of the desk. -/
lemma reaches_sender (hrun : Relation.ReflTransGen (Step task) d ⟨s, table, past⟩)
    (hturn : s.handle (idealSurroundings []) event table = ⟨s', table', intents, used, false⟩)
    (hbegin : ∀ task' network, s.stage = .idle → event = .begin task' network → task' = task) :
    Relation.ReflTransGen (Step task) d ⟨s', table', past ++ intents.map .said⟩ := by
  have hnext := hrun.tail (.sender _ (idealSurroundings []) event hbegin)
  simpa only [senderDoes, hturn] using hnext

/-- A grant is a step of the desk. -/
lemma reaches_grant (hrun : Relation.ReflTransGen (Step task) d ⟨s, table, past⟩) {g : TaskTable.Grant}
    (hgrant : table.grant task.id = .ok (g, table')) :
    Relation.ReflTransGen (Step task) d ⟨s, table', past ++ [.grants task.id g]⟩ := by
  have hnext := hrun.tail (.client _ (.grant task.id) fun _ => .inl rfl)
  simpa only [clientDoes, Call.run, hgrant, Note.grants] using hnext

variable {S R : Settings} {id : String} {network : NetworkInfo} {port : UInt16} {totalSize : UInt64}

/-- A sender that wants no encryption can be led to where its task may be downloaded. -/
lemma exists_authorized (id : String) (hS : S.encryption = false) (hversion : worstVersion S R ≤ bestVersion S R)
    (hport : network.servicePort? = some port) (hsize : task.totalSize? = some totalSize)
    (hnew : table.find? task.id = none) :
    ∃ s table' past j, Relation.ReflTransGen (Step task) (start S id table) ⟨s, table', past⟩ ∧
      s.stage = .requestAcked ∧ s.channel = waiting none ∧ s.job = some j ∧ j.taskId = task.id ∧
      table'.Has task .requested := by
  obtain ⟨table₁, hregister, hoffered⟩ := TaskTable.exists_register hnew 0
  obtain ⟨table₂, hrequest, hrequested⟩ := hoffered.request
  have hbegun : Relation.ReflTransGen (Step task) (start S id table) ⟨_, table₁, _⟩ :=
    reaches_sender .refl (Sender.handle_of_answers (.began rfl hport hsize hregister) (by simp))
      (by rintro _ _ - ⟨⟩; rfl)
  obtain ⟨s, said, announcement, hrun, hstage, hjob, hchannel, -⟩ :=
    exists_announced (e := idealSurroundings []) (R := R)
      (P := fun s said => Relation.ReflTransGen (Step task) (start S id table) ⟨s, table₁, said.map .said⟩) table₁
      (cooperates_ideal []) (by simp [Sender.share, hS])
      (settled_plain _ (idealSurroundings []) (by simp [hS]) fun _ => rfl) hversion hbegun
      (fun event s s' said intents used hother hturn hrun => by
        rw [List.map_append]
        exact reaches_sender hrun hturn fun task' network _ hbegin => absurd hbegin (hother task' network))
  exact ⟨_, table₂, _, _, reaches_sender hrun (handle_requestAck (j := _) hstage hchannel hjob hrequest) (by simp),
    rfl, rfl, hjob, rfl, hrequested⟩

/-- A sender that wants no encryption can be led through a whole session in which its task is granted. -/
lemma exists_served (hS : S.encryption = false) (hversion : worstVersion S R ≤ bestVersion S R)
    (hport : network.servicePort? = some port) (hsize : task.totalSize? = some totalSize)
    (hnew : table.find? task.id = none) :
    ∃ d, Relation.ReflTransGen (Step task) (start S id table) d ∧ d.sender.stage = .completed ∧
      d.table.Has task (.ended .completed) ∧ .grants task.id ⟨task.id, task.files⟩ ∈ d.past := by
  obtain ⟨s, table', past, j, hrun, hstage, hchannel, hjob, hname, hrequested⟩ :=
    exists_authorized id hS hversion hport hsize hnew
  obtain ⟨table'', hgrant, hserving⟩ := hrequested.grant
  obtain ⟨table₃, hfinish, hended⟩ := hserving.finish rfl .completed 0
  rw [← hname] at hfinish
  obtain ⟨report, hreport⟩ := exists_report (cooperates_ideal []) none j.taskId .ok ""
  obtain ⟨channel, hcompleted⟩ :=
    handle_report (e := idealSurroundings []) opensReport_none rfl (.inl hstage) hchannel hjob hreport hfinish
  exact ⟨_, reaches_sender (reaches_grant hrun hgrant) hcompleted (by simp), rfl, hended, by simp⟩

end Run

variable {settings : Settings} {id : String} {grace lifetime : Nat}

/-- **A session and its task stay in step.** A task that is in the table is in a state that goes with the stage
of its sender, and it is not in the table after its sender gave up. It is granted at most once, with all of
its files, after the sender has allowed it and before the sender has ended. -/
theorem in_step_and_granted_once (earlier : List Call)
    (hnew : (TaskTable.play earlier { grace, lifetime }).find? task.id = none)
    (hrun : Relation.ReflTransGen (Step task) (start settings id (.play earlier { grace, lifetime })) d) :
    (∀ j, d.sender.job = some j → j.taskId = task.id) ∧
    (∀ e, d.table.find? task.id = some e → e.task = task ∧ InStep d.sender.stage e.state) ∧
    (d.sender.stage = .failed .aborted → d.table.find? task.id = none) ∧
    ∀ before g after, d.past = before ++ .answered (.grant task.id) (.granted g) :: after →
      g = ⟨task.id, task.files⟩ ∧ .said (.serveAuthorized task.id) ∈ before ∧
        (∀ result, .said (.finished result) ∉ before) ∧
        ∀ g', .answered (.grant task.id) (.granted g') ∉ before ++ after := by
  have hinvariant : Kept task d.sender d.table ∧ Told task d := by
    induction hrun with
    | refl =>
      refine ⟨⟨(TaskTable.distinct_empty grace lifetime).play earlier, Sender.coherent_start settings id,
        (fun j hj => by cases hj), fun e hfind => ?_⟩,
        ⟨?_, fun _ _ => List.not_mem_nil, fun _ _ => List.not_mem_nil,
          fun g hg => absurd hg List.not_mem_nil, ?_⟩⟩
      · exact absurd (hfind.symm.trans hnew) nofun
      · rintro (hstage | hstage) <;> cases hstage
      · intro before g after hpast
        cases before <;> cases hpast
    | tail _ hstep ih => exact step_keeps ih.1 ih.2 hstep
  obtain ⟨hkept, htold⟩ := hinvariant
  refine ⟨hkept.job, hkept.entry, fun haborted => ?_, htold.grants⟩
  cases hfind : d.table.find? task.id with
  | none => rfl
  | some e =>
    have hin := (hkept.entry e hfind).2
    rw [haborted] at hin
    exact absurd rfl hin.1

/-- A task that was granted and has come. -/
theorem in_step_and_granted_once_served :
    let task : SharedTask := { id := "t", files := [.ofBytes "a" "text/plain" []] }
    ∃ d before after, Relation.ReflTransGen (Step task)
        (start { deviceName := "left", encryption := false } "s" { grace := 0, lifetime := 0 }) d ∧
      InStep d.sender.stage (.ended .completed) ∧
      d.past = before ++ .answered (.grant "t") (.granted ⟨"t", task.files⟩) :: after ∧
      .said (.serveAuthorized "t") ∈ before ∧ ∀ result, .said (.finished result) ∉ before := by
  intro task
  have hnew : (TaskTable.play [] { grace := 0, lifetime := 0 }).find? task.id = none := rfl
  have hport : (NetworkInfo.plain "ssid" "psk" "mac" 8443).servicePort? = some 8443 := by decide
  have hversion : Handshake.worstVersion { deviceName := "left", encryption := false } { deviceName := "right" } ≤
      Handshake.bestVersion { deviceName := "left", encryption := false } { deviceName := "right" } := by decide
  obtain ⟨d, hrun, -, ⟨e, hfind, -, hended⟩, hgranted⟩ := exists_served rfl hversion hport rfl hnew
  obtain ⟨-, hentry, -, hgrants⟩ := in_step_and_granted_once [] hnew hrun
  obtain ⟨before, after, hpast⟩ := List.append_of_mem hgranted
  obtain ⟨-, hauthorized, hunfinished, -⟩ := hgrants before _ after hpast
  have hin := (hentry e hfind).2
  rw [hended] at hin
  exact ⟨d, before, after, hrun, hin, hpast, hauthorized, hunfinished⟩

end Desk

end DirectShare
