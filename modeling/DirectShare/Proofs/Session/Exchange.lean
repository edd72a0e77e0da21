import Mathlib
import DirectShare.Proofs.Session.Handshake
import DirectShare.Task.Announcement

/-!
# The exchange

What both sides do once they have agreed on a version: the sender announces its task, the receiver
acknowledges that and reports how the task ended, and the sender acknowledges the report. Each frame is
received by the channel of the other side, sealed or not.

`Exchange.IsAnnouncement` and `Exchange.IsReport` are the frames with a body under a key that may be missing;
`Exchange.requestAckFrame` and `Exchange.statusAckFrame` are those without one. Each is received
(`Exchange.receive_announcement`, `Exchange.receive_report`), and then the handlers are computed rule by rule.
That the files of an announcement are accepted when they have come is `Exchange.mismatch?_announce`.
-/

namespace DirectShare.Exchange

open Handshake (answered answering)

/-! ### Channels -/

/-- The channel of a sender that has announced its task. -/
def announcing (key? : Option SharedKey) : Channel :=
  { nextSequence := 2, pending := some (1, .sendRequest), crypto := key?.map (.keyed .sender 1 0) }

/-- The channel of a sender that waits for a report. -/
def waiting (key? : Option SharedKey) : Channel :=
  { nextSequence := 2, crypto := key?.map (.keyed .sender 1 0) }

/-- The channel of a sender that has got the report. -/
def informed (key? : Option SharedKey) : Channel :=
  { nextSequence := 2, lastPeerSequence := some 100, crypto := key?.map (.keyed .sender 1 1) }

/-- The channel of a receiver that waits for an announcement. -/
def listening (key? : Option SharedKey) : Channel := answering (key?.map (.keyed .receiver 0 0))

/-- The channel of a receiver that has got the announcement. -/
def asked (key? : Option SharedKey) : Channel :=
  { nextSequence := 100, lastPeerSequence := some 1, crypto := key?.map (.keyed .receiver 0 1) }

/-- The channel of a receiver that has reported. -/
def reporting (key? : Option SharedKey) : Channel :=
  { nextSequence := 101
    pending := some (100, .status)
    lastPeerSequence := some 1
    crypto := key?.map (.keyed .receiver 1 1) }

/-! ### Frames -/

/-- The frame that acknowledges an announcement. -/
def requestAckFrame : Bytes := Frame.encode ⟨.ack, 1, .sendRequest, .empty⟩

/-- The frame that acknowledges a report. -/
def statusAckFrame : Bytes := Frame.encode ⟨.ack, 100, .status, .empty⟩

/-- The bytes are the frame with an announcement. -/
def IsAnnouncement (p : Provider) (key? : Option SharedKey) (request : SendRequest) (bytes : Bytes) : Prop :=
  Channel.sendAction p .sendRequest (some (Json.Record.toJson request))
    (answered (key?.map (.keyed .sender 0 0))) = .ok bytes (announcing key?)

/-- The bytes are the frame with a report. -/
def IsReport (p : Provider) (key? : Option SharedKey) (id : String) (outcome : Outcome) (reason : String)
    (bytes : Bytes) : Prop :=
  Channel.sendAction p .status (some (Receiver.reportJson id outcome reason)) (asked key?) =
    .ok bytes (reporting key?)

/-- The sealing of an announcement. -/
def announcementSealing (key : SharedKey) (request : SendRequest) (ciphertext : Bytes) : Sealing :=
  .ofBody key .sender 0 .action 1 .sendRequest (Json.Record.toJson request) ciphertext

/-- The sealing of a report. -/
def reportSealing (key : SharedKey) (id : String) (outcome : Outcome) (reason : String) (ciphertext : Bytes) :
    Sealing :=
  .ofBody key .receiver 0 .action 100 .status (Receiver.reportJson id outcome reason) ciphertext

/-- The provider opens the announcement, if it is sealed. -/
def OpensAnnouncement (p : Provider) (key? : Option SharedKey) (request : SendRequest) : Prop :=
  ∀ key ciphertext, key? = some key → p.Reopens (announcementSealing key request ciphertext)

/-- The provider opens the report, if it is sealed. -/
def OpensReport (p : Provider) (key? : Option SharedKey) (id : String) (outcome : Outcome) (reason : String) :
    Prop :=
  ∀ key ciphertext, key? = some key → p.Reopens (reportSealing key id outcome reason ciphertext)

variable {p : Provider} {key? : Option SharedKey} {request : SendRequest} {id reason : String}
  {outcome : Outcome} {bytes : Bytes}

/-- Without a key there is no announcement to open. -/
lemma opensAnnouncement_none : OpensAnnouncement p none request := nofun

/-- Without a key there is no report to open. -/
lemma opensReport_none : OpensReport p none id outcome reason := nofun

/-- An announcement is received. -/
theorem receive_announcement (ho : OpensAnnouncement p key? request) (h : IsAnnouncement p key? request bytes) :
    Channel.receive p bytes (listening key?) =
      .ok (.action 1 .sendRequest (some (Json.Record.toJson request))) (asked key?) := by
  have hcrypto : (answered (key?.map (.keyed .sender 0 0))).crypto = key?.map (.keyed .sender 0 0) := rfl
  have hother : (listening key?).crypto = key?.map (.keyed Role.sender.peer 0 0) := rfl
  have hreadable : (Json.Record.toJson request).IsReadable Json.maxLevels :=
    (SendRequest.isReadable_toJson request).mono (by decide)
  refine Channel.receive_sendAction hcrypto hother hreadable nofun ?_ h ho
  intro n hn
  cases hn
  show (0 : UInt32) < 1
  decide

/-- There is a report of every outcome, with or without a key. -/
lemma exists_report (hp : p.Cooperates) (key? : Option SharedKey) (id : String) (outcome : Outcome)
    (reason : String) : ∃ bytes, IsReport p key? id outcome reason bytes := by
  have hcrypto : (asked key?).crypto = key?.map (.keyed .receiver 0 1) := rfl
  have hsent : (0 : UInt32).toNat + 1 < UInt32.size := by decide
  have hnumber : (100 : UInt32).toNat + 1 < UInt32.size := by decide
  exact Channel.sendAction_keyed hp hcrypto hsent nofun rfl hnumber

/-- A report is received. -/
theorem receive_report (ho : OpensReport p key? id outcome reason) (h : IsReport p key? id outcome reason bytes) :
    Channel.receive p bytes (waiting key?) =
      .ok (.action 100 .status (some (Receiver.reportJson id outcome reason))) (informed key?) := by
  have hcrypto : (asked key?).crypto = key?.map (.keyed .receiver 0 1) := rfl
  have hother : (waiting key?).crypto = key?.map (.keyed Role.receiver.peer 1 0) := rfl
  have hreadable : (Receiver.reportJson id outcome reason).IsReadable Json.maxLevels :=
    (StatusReport.isReadable_toJson _).mono (by decide)
  exact Channel.receive_sendAction hcrypto hother hreadable nofun nofun h ho

/-- The acknowledgement of an announcement is received. -/
lemma receive_requestAck (p : Provider) (key? : Option SharedKey) :
    Channel.receive p requestAckFrame (announcing key?) = .ok (.ack .sendRequest none) (waiting key?) :=
  Channel.receive_ack rfl

/-- The acknowledgement of a report is received. -/
lemma receive_statusAck (p : Provider) (key? : Option SharedKey) :
    Channel.receive p statusAckFrame (reporting key?) =
      .ok (.ack .status none) { reporting key? with pending := none } :=
  Channel.receive_ack rfl

/-- The body of an announcement is read as the request. -/
lemma readBody_announcement (request : SendRequest) :
    Channel.readBody .sendRequest (some (Json.Record.toJson request)) = .ok request := by
  rw [Channel.readBody, SendRequest.ofJson?_toJson]

/-- The body of a report is read as the report. -/
lemma readBody_report (id : String) (outcome : Outcome) (reason : String) :
    Channel.readBody .status (some (Receiver.reportJson id outcome reason)) =
      .ok (StatusReport.ofOutcome id outcome reason) := by
  rw [Channel.readBody, Receiver.reportJson, StatusReport.ofJson?_toJson]

/-! ### Announced files -/

/-- The files of a task are those that it announces. -/
theorem mismatch?_announce (task : SharedTask) (totalSize : UInt64) (senderId senderName : String)
    (h : task.text = none) :
    Receiver.mismatch? (task.announce totalSize senderId senderName) (task.files.map (·.name)) = none := by
  have hempty : (task.announce totalSize senderId senderName).files = [] ↔ task.files = [] := List.map_eq_nil_iff
  rw [Receiver.mismatch?_eq_none_iff]
  by_cases hfiles : task.files = []
  · refine .counted (hempty.2 hfiles) ?_
    simp [SharedTask.announce, SharedTask.fileCount, hfiles, h]
  · refine .listed (fun hnil => hfiles (hempty.1 hnil)) ?_
    simp [SharedTask.announce, Function.comp_def]

/-- An announcement names its task, if that has a name. -/
lemma task?_announce (task : SharedTask) (totalSize : UInt64) (senderId senderName : String) (h : task.id ≠ "") :
    (task.announce totalSize senderId senderName).task? = some task.id := by
  simp [SendRequest.task?, SharedTask.announce, h]

/-! ### The turns of the receiver -/

section Receiver

variable {e : Surroundings} {r : Receiver}

/-- A text is shown and its arrival reported. -/
lemma handle_announcement_text {text : String} (hp : p.Cooperates)
    (ho : OpensAnnouncement p key? request) (he : e.provider = p)
    (hstage : r.stage = .versionNegotiated) (hchannel : r.channel = listening key?)
    (h : IsAnnouncement p key? request bytes) (htask : request.task? = some id)
    (htext : request.catShareText = some text) :
    ∃ report, IsReport p key? id .ok "" report ∧
      r.handle e (.frame bytes) =
        { session :=
            { r with
              stage := .requestReceived
              channel := reporting key?
              request := some request
              reported := some .ok }
          intents := [.send requestAckFrame, .textReceived id text, .send report] } := by
  obtain ⟨report, hreport⟩ := exists_report hp key? id .ok ""
  subst he
  have hreceive := receive_announcement ho h
  rw [← hchannel] at hreceive
  exact ⟨report, hreport, Receiver.handle_of_answers (by rw [hstage]; rfl)
    (.shows hstage hreceive (readBody_announcement _) htask Channel.sendAck_empty htext hreport) nofun⟩

/-- Files are downloaded at once if the settings say so. -/
lemma handle_announcement_accepted (ho : OpensAnnouncement p key? request) (he : e.provider = p)
    (hstage : r.stage = .versionNegotiated) (hchannel : r.channel = listening key?)
    (h : IsAnnouncement p key? request bytes) (htask : request.task? = some id)
    (htext : request.catShareText = none) (hauto : r.settings.autoAccept = true) :
    r.handle e (.frame bytes) =
      { session := { r with stage := .downloading, channel := asked key?, request := some request }
        intents := [.send requestAckFrame, .download id] } := by
  subst he
  have hreceive := receive_announcement ho h
  rw [← hchannel] at hreceive
  exact Receiver.handle_of_answers (by rw [hstage]; rfl)
    (.downloads hstage hreceive (readBody_announcement _) htask Channel.sendAck_empty htext hauto) nofun

/-- Otherwise the user is asked about them. -/
lemma handle_announcement_asking (ho : OpensAnnouncement p key? request) (he : e.provider = p)
    (hstage : r.stage = .versionNegotiated) (hchannel : r.channel = listening key?)
    (h : IsAnnouncement p key? request bytes) (htask : request.task? = some id)
    (htext : request.catShareText = none) (hauto : r.settings.autoAccept = false) :
    r.handle e (.frame bytes) =
      { session :=
          { r with
            stage := .requestReceived
            channel := asked key?
            request := some request
            awaitingDecision := true }
        intents := [.send requestAckFrame, .confirmRequest request] } := by
  subst he
  have hreceive := receive_announcement ho h
  rw [← hchannel] at hreceive
  exact Receiver.handle_of_answers (by rw [hstage]; rfl)
    (.asks hstage hreceive (readBody_announcement _) htask Channel.sendAck_empty htext hauto) nofun

/-- A refusal of the user is reported. -/
lemma handle_refusal (hp : p.Cooperates) (he : e.provider = p) (hstage : r.stage = .requestReceived)
    (hasked : r.awaitingDecision = true) (htask : r.task? = some id) (hchannel : r.channel = asked key?) :
    ∃ report, IsReport p key? id .refused "user refuse" report ∧
      r.handle e (.decision false) =
        { session :=
            { r with awaitingDecision := false, channel := reporting key?, reported := some .refused }
          intents := [.send report] } := by
  obtain ⟨report, hreport⟩ := exists_report hp key? id .refused "user refuse"
  subst he
  have hsend := hreport
  rw [IsReport, ← hchannel] at hsend
  exact ⟨report, hreport, Receiver.handle_of_answers (by rw [hstage]; rfl)
    (.refuses hstage hasked htask hsend) (by rw [hstage]; exact nofun)⟩

/-- A download without fault is reported. -/
lemma handle_download {result : Except String (List String)} (hp : p.Cooperates) (he : e.provider = p)
    (hstage : r.stage = .downloading) (hnone : r.reported = none) (hrequest : r.request = some request)
    (hfault : Receiver.fault? request result = none) (htask : r.task? = some id)
    (hchannel : r.channel = asked key?) :
    ∃ report, IsReport p key? id .ok "" report ∧
      r.handle e (.downloadFinished result) =
        { session := { r with channel := reporting key?, reported := some .ok }
          intents := [.send report] } := by
  obtain ⟨report, hreport⟩ := exists_report hp key? id .ok ""
  subst he
  have hsend := hreport
  rw [IsReport, ← hchannel] at hsend
  exact ⟨report, hreport, Receiver.handle_of_answers (by rw [hstage]; rfl)
    (.downloaded hstage hnone hrequest hfault htask hsend) (by rw [hstage]; exact nofun)⟩

/-- The acknowledgement of a reported success completes the receiver. -/
lemma handle_statusAck (hopen : r.stage.isTerminal = false) (hreported : r.reported = some .ok)
    (htask : r.task? = some id) (hchannel : r.channel = reporting key?) :
    ∃ channel, r.handle e (.frame statusAckFrame) =
      { session := { r with reported := none, channel, stage := .completed }
        intents := [.finished (.ok id)] } := by
  have hreceive := receive_statusAck e.provider key?
  rw [← hchannel] at hreceive
  exact ⟨_, Receiver.handle_of_answers hopen (.completed hreceive hreported htask) nofun⟩

/-- The acknowledgement of a reported refusal ends the receiver with the refusal. -/
lemma handle_statusAck_refused (hopen : r.stage.isTerminal = false) (hreported : r.reported = some .refused)
    (hchannel : r.channel = reporting key?) :
    ∃ channel, r.handle e (.frame statusAckFrame) =
      Receiver.fail .refused { session := { r with channel, reported := none } } := by
  have hreceive := receive_statusAck e.provider key?
  rw [← hchannel] at hreceive
  exact ⟨_, Receiver.handle_refusalAck hopen hreceive hreported⟩

end Receiver

/-! ### The turns of the sender -/

section Sender

variable {e : Surroundings} {s : Sender} {table table' : TaskTable} {j : Sender.Job}

/-- The acknowledgement of its announcement makes the sender allow the download. -/
lemma handle_requestAck (hstage : s.stage = .requestSent) (hchannel : s.channel = announcing key?)
    (hjob : s.job = some j) (htable : table.request j.taskId = .ok table') :
    s.handle e (.frame requestAckFrame) table =
      { session := { s with stage := .requestAcked, channel := waiting key? }
        table := table'
        intents := [.serveAuthorized j.taskId] } := by
  have hreceive := receive_requestAck e.provider key?
  rw [← hchannel] at hreceive
  exact Sender.handle_of_answers (.authorized hstage hreceive hjob htable) nofun

/-- The sender ends with success when that is reported. -/
lemma handle_report (ho : OpensReport p key? j.taskId .ok reason) (he : e.provider = p)
    (hstage : s.stage = .requestAcked ∨ s.stage = .serving) (hchannel : s.channel = waiting key?)
    (hjob : s.job = some j) (h : IsReport p key? j.taskId .ok reason bytes)
    (htable : table.finish j.taskId .completed e.now = .ok table') :
    ∃ channel, s.handle e (.frame bytes) table =
      { session := { s with stage := .completed, channel }
        table := table'
        intents := [.send statusAckFrame, .finished (.ok j.taskId)] } := by
  subst he
  have hreceive := receive_report ho h
  rw [← hchannel] at hreceive
  exact ⟨_, Sender.handle_of_answers (.completed hstage hreceive (readBody_report _ _ _) hjob (by simp)
    Channel.sendAck_empty (by simp) htable) nofun⟩

/-- The sender ends with a refusal when that is reported. -/
lemma handle_report_refused (table : TaskTable) (ho : OpensReport p key? j.taskId .refused reason)
    (he : e.provider = p) (hstage : s.stage = .requestAcked ∨ s.stage = .serving)
    (hchannel : s.channel = waiting key?) (hjob : s.job = some j)
    (h : IsReport p key? j.taskId .refused reason bytes) :
    ∃ channel, s.handle e (.frame bytes) table =
      Sender.fail e (.reportedRefusal reason)
        { session := { s with channel }, table, intents := [.send statusAckFrame] } := by
  subst he
  have hreceive := receive_report ho h
  rw [← hchannel] at hreceive
  exact ⟨_, Sender.handle_reportFailure hstage hreceive (readBody_report _ _ _) hjob (by simp)
    Channel.sendAck_empty (by simp [Sender.reportFailure?]; rfl)⟩

end Sender

end DirectShare.Exchange
