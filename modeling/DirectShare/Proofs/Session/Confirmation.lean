import Mathlib
import DirectShare.Proofs.Session.Registration
import DirectShare.Proofs.Session.SenderScript

/-!
# The confirmation of success

A sender acknowledges a report of success before it notes in the table that its task has ended. Other clients may
have taken the task out by then. The table refuses to note the end of a task that it does not have, and the sender
fails although it has confirmed the success.

`Sender.Confirms` says that a sender acknowledges a report of success. `Sender.confirmed_as_listed` computes
how it ends then, by whether the table has its task, and `Sender.confirmed_and_failed` is a desk where the
task was taken out before the report came.
-/

namespace DirectShare

namespace TaskTable

variable {table : TaskTable} {id : String} {how : TaskEnd} {now : Nat}

/-- The end of a task can be noted exactly if the table has the task. What was noted first stands. -/
lemma finish_cases (table : TaskTable) (id : String) (how : TaskEnd) (now : Nat) :
    (table.find? id = none ∧ table.finish id how now = .error (.notFound id)) ∨
    table.find? id ≠ none ∧ ∃ table' how', table.finish id how now = .ok table' ∧
      table'.state? id = some (.ended how') ∧ (how' ≠ how → table' = table) := by
  cases hfind : table.find? id with
  | none => exact .inl ⟨rfl, finish_of_find?_none hfind how now⟩
  | some e =>
    have hstate : table.state? id = some e.state := by rw [state?, hfind]; rfl
    refine .inr ⟨by simp, ?_⟩
    cases hopen : e.state.isTerminal with
    | false =>
      obtain ⟨table', hfinish, hended⟩ := state?_finish hstate hopen how now
      exact ⟨table', how, hfinish, hended, fun hne => absurd rfl hne⟩
    | true =>
      have hsame : table.finish id how now = .ok table := by rw [finish_of_find? hfind, if_pos hopen]
      cases he : e.state with
      | ended how' => exact ⟨table, how', hsame, by rw [hstate, he], fun _ => rfl⟩
      | _ => rw [he] at hopen; cases hopen

end TaskTable

namespace Sender

/-- A frame brings a report of success, and the sender acknowledges it. -/
def Confirms (env : Surroundings) (s : Sender) (table : TaskTable) (bytes : Bytes) : Prop :=
  ∃ sequence body channel, ∃ report : StatusReport,
    Channel.receive env.provider bytes s.channel = .ok (.action sequence .status body) channel ∧
    Channel.readBody .status body = .ok report ∧ report.outcome = .ok ∧
    .send (Frame.encode ⟨.ack, sequence, .status, .empty⟩) ∈ (handle env (.frame bytes) s table).intents

/-- A frame brings a report of the success of the own task, which the sender answers by sending `ack`. -/
inductive HearsSuccess (env : Surroundings) (s : Sender) (bytes : Bytes) : Job → (ack : Bytes) → Channel → Prop where
  | intro {sequence : UInt32} {body : Option Json} {report : StatusReport} {j : Job} {ack : Bytes} {ch₁ ch₂ : Channel}
      (hs : s.stage = .requestAcked ∨ s.stage = .serving)
      (hreceive : Channel.receive env.provider bytes s.channel = .ok (.action sequence .status body) ch₁)
      (hread : Channel.readBody .status body = .ok report) (hjob : s.job = some j)
      (htask : report.task?.filter (· ≠ j.taskId) = none)
      (hack : Channel.sendAck env.provider sequence .status none ch₁ = .ok ack ch₂) (hok : report.outcome = .ok) :
      HearsSuccess env s bytes j ack ch₂

variable {env : Surroundings} {s : Sender} {table : TaskTable} {bytes ack : Bytes} {j : Job} {channel : Channel}

/-- A sender that hears of a success works on its job. -/
lemma HearsSuccess.job (h : HearsSuccess env s bytes j ack channel) : s.job = some j := by
  obtain ⟨-, -, -, hjob⟩ := h
  exact hjob

/-- A sender whose task is in the table ends with the success. -/
lemma HearsSuccess.handle_of_finish (h : HearsSuccess env s bytes j ack channel) {table' : TaskTable}
    (hfinish : table.finish j.taskId .completed env.now = .ok table') :
    handle env (.frame bytes) s table =
      { session := { s with stage := .completed, channel := channel.discardCrypto }
        table := table'
        intents := [.send ack, .finished (.ok j.taskId)] } := by
  obtain ⟨hs, hreceive, hread, hjob, htask, hack, hok⟩ := h
  exact handle_of_answers (.completed hs hreceive hread hjob htask hack hok hfinish) nofun

/-- A sender whose task has left the table fails, and leaves the table as it is. -/
lemma HearsSuccess.handle_of_gone (h : HearsSuccess env s bytes j ack channel) (hgone : table.find? j.taskId = none) :
    handle env (.frame bytes) s table =
      { session := { s with channel := channel.discardCrypto, stage := .failed (.task (.notFound j.taskId)) }
        table
        intents := [.send ack, .finished (.error (.task (.notFound j.taskId)))] } := by
  have hrefused : ∀ how, table.finish j.taskId how env.now = .error (.notFound j.taskId) := by
    intro how
    obtain ⟨-, hrefused⟩ | ⟨hlisted, -⟩ := TaskTable.finish_cases table j.taskId how env.now
    · exact hrefused
    · exact absurd hgone hlisted
  obtain ⟨hs, hreceive, hread, hjob, htask, hack, hok⟩ := h
  rw [handle_unfinished hs hreceive hread hjob htask hack hok (hrefused .completed)]
  simp only [fail, hjob, hrefused]
  rfl

/-- A report of success is confirmed, whatever the table holds. -/
lemma HearsSuccess.confirms (h : HearsSuccess env s bytes j ack channel) (table : TaskTable) :
    Confirms env s table bytes := by
  have hsent : .send ack ∈ (handle env (.frame bytes) s table).intents := by
    obtain ⟨hgone, -⟩ | ⟨-, table', how, hfinish, -⟩ := TaskTable.finish_cases table j.taskId .completed env.now
    · rw [h.handle_of_gone hgone]
      exact List.mem_cons_self
    · rw [h.handle_of_finish hfinish]
      exact List.mem_cons_self
  obtain ⟨hs, hreceive, hread, hjob, htask, hack, hok⟩ := h
  obtain ⟨rfl, -⟩ := Channel.sendAck_none hack
  exact ⟨_, _, _, _, hreceive, hread, hok, hsent⟩

/-- Only the report of a success of the own task is confirmed. -/
lemma Confirms.hearsSuccess (h : Confirms env s table bytes) :
    ∃ j ack channel, HearsSuccess env s bytes j ack channel := by
  obtain ⟨sequence, body, channel, report, hreceive, hread, hok, hsent⟩ := h
  cases hs : s.stage.isTerminal with
  | true =>
    rw [handle_of_isTerminal hs] at hsent
    cases hsent
  | false =>
    have hturn := handle_answers env table hs (.frame bytes)
    revert hturn hsent
    generalize handle env (.frame bytes) s table = t
    intro hsent hturn
    cases hturn with
    | announced hstage hreceive' =>
      rw [hreceive] at hreceive'
      cases hreceive'
    | completed hstage hreceive' hread' hjob htask hack hok' hfinish =>
      exact ⟨_, _, _, hstage, hreceive', hread', hjob, htask, hack, hok'⟩
    | reported hstage hreceive' hread' hjob htask hack hcause =>
      rw [hreceive] at hreceive'
      cases hreceive'
      exact ⟨_, _, _, hstage, hreceive, hread', hjob, htask, hack, by rw [hread] at hread'; cases hread'; exact hok⟩
    | _ => simp [fail] at hsent

/-- **The confirmation of success.** Take any sender and any table, and a frame at which the sender acknowledges a
report of success. If the table has its task, the sender ends with this success in the same turn, and the table says
that the task has ended, with success unless it had ended before. If the task has left the table, the sender fails
because of that, with the acknowledgement sent, and leaves the table as it is. -/
theorem confirmed_as_listed (h : Confirms env s table bytes) :
    let t := handle env (.frame bytes) s table
    ∃ j ack, s.job = some j ∧
      ((table.find? j.taskId ≠ none ∧ t.session.stage = .completed ∧
          t.intents = [.send ack, .finished (.ok j.taskId)] ∧
          ∃ how, t.table.state? j.taskId = some (.ended how) ∧ (how ≠ .completed → t.table = table)) ∨
        (table.find? j.taskId = none ∧ t.session.stage = .failed (.task (.notFound j.taskId)) ∧
          t.intents = [.send ack, .finished (.error (.task (.notFound j.taskId)))] ∧ t.table = table)) := by
  obtain ⟨j, ack, channel, hhears⟩ := h.hearsSuccess
  refine ⟨j, ack, hhears.job, ?_⟩
  obtain ⟨hgone, -⟩ | ⟨hlisted, table', how, hfinish, hended, hkept⟩ :=
    TaskTable.finish_cases table j.taskId .completed env.now
  · rw [hhears.handle_of_gone hgone]
    exact .inr ⟨hgone, rfl, rfl, rfl⟩
  · rw [hhears.handle_of_finish hfinish]
    exact .inl ⟨hlisted, rfl, rfl, how, hended, hkept⟩

open Handshake Exchange

/-- A sender that wants no encryption can be led to where it hears of a success. -/
lemma exists_hearsSuccess (task : SharedTask) (settings : Settings) (id : String) (earlier : TaskTable)
    (hplain : settings.encryption = false) (hversions : worstVersion settings settings ≤ bestVersion settings settings)
    {totalSize : UInt64} (hsize : task.totalSize? = some totalSize) (hnew : earlier.find? task.id = none) :
    ∃ s table past j bytes ack channel,
      Relation.ReflTransGen (Desk.Step task) (Desk.start settings id earlier) ⟨s, table, past⟩ ∧
      j.taskId = task.id ∧ table.Has task .requested ∧ HearsSuccess (idealSurroundings []) s bytes j ack channel := by
  have hport : (NetworkInfo.plain "ssid" "psk" "mac" 8443).servicePort? = some 8443 := by decide
  obtain ⟨s, table, past, j, hrun, hstage, hchannel, hjob, hname, hrequested⟩ :=
    Desk.exists_authorized id hplain hversions hport hsize hnew
  obtain ⟨report, hreport⟩ := exists_report (cooperates_ideal []) none j.taskId .ok ""
  have hreceive := receive_report opensReport_none hreport
  rw [← hchannel] at hreceive
  exact ⟨s, table, past, j, report, _, _, hrun, hname, hrequested, .inl hstage, hreceive, readBody_report _ _ _, hjob,
    by simp, Channel.sendAck_empty, by simp⟩

/-- A success that is confirmed and noted. -/
theorem confirmed_as_listed_completed :
    ∃ d bytes, Relation.ReflTransGen (Desk.Step { id := "t" })
        (Desk.start { deviceName := "left", encryption := false } "s" { grace := 0, lifetime := 0 }) d ∧
      Confirms (idealSurroundings []) d.sender d.table bytes ∧
      (handle (idealSurroundings []) (.frame bytes) d.sender d.table).session.stage = .completed := by
  obtain ⟨s, table, past, j, bytes, ack, channel, hrun, hname, ⟨e, hfind, -⟩, hhears⟩ :=
    exists_hearsSuccess { id := "t" } { deviceName := "left", encryption := false } "s" { grace := 0, lifetime := 0 }
      rfl (by decide) rfl rfl
  refine ⟨_, bytes, hrun, hhears.confirms table, ?_⟩
  obtain ⟨j', ack', hjob', ⟨-, hstage, -⟩ | ⟨hgone, -⟩⟩ := confirmed_as_listed (hhears.confirms table)
  · exact hstage
  · rw [hhears.job] at hjob'
    cases hjob'
    rw [hname, hfind] at hgone
    cases hgone

/-- A success that is confirmed although the sender fails, because another client has taken the task out. -/
theorem confirmed_and_failed :
    ∃ d bytes, Relation.ReflTransGen (Desk.Step { id := "t" })
        (Desk.start { deviceName := "left", encryption := false } "s" { grace := 0, lifetime := 0 }) d ∧
      Confirms (idealSurroundings []) d.sender d.table bytes ∧
      (handle (idealSurroundings []) (.frame bytes) d.sender d.table).session.stage = .failed (.task (.notFound "t")) ∧
      ∀ id, .finished (.ok id) ∉ (handle (idealSurroundings []) (.frame bytes) d.sender d.table).intents := by
  obtain ⟨s, table, past, j, bytes, ack, channel, hrun, hname, -, hhears⟩ :=
    exists_hearsSuccess { id := "t" } { deviceName := "left", encryption := false } "s" { grace := 0, lifetime := 0 }
      rfl (by decide) rfl rfl
  refine ⟨_, bytes, hrun.tail (.client _ (.remove "t") fun _ => .inr rfl), hhears.confirms _, ?_⟩
  have hgone : (table.remove "t").find? j.taskId = none := by
    rw [TaskTable.find?_remove, if_pos hname]
  have hturn : handle (idealSurroundings []) (.frame bytes) s (table.remove "t") = _ := hhears.handle_of_gone hgone
  simp only [Desk.clientDoes, TaskTable.Call.run]
  rw [hturn, hname]
  exact ⟨rfl, by simp⟩

end Sender

end DirectShare
