import Mathlib
import DirectShare.Proofs.Session.Meeting

/-!
# The phases of a transfer

However the events of a transfer are interleaved, it passes through the same phases: both sides meet, agree on
a version or part, the task is announced, downloaded and reported, and the report is acknowledged. Only while
both sides know of the task do they go on independently: the acknowledgement of the announcement is under way
while the receiver asks its user or the download service, and the sender is told of the download while the
receiver reports it.

`Transfer.Phase` has a case for each phase, with what each side holds, what is under way and what is still to
be done. `Transfer.Advances` is what a step has to do: lead to a phase, with less left to happen. What the
plan determines is computed here, and `Transfer.senderEnded_fail` and `Transfer.receiverEnded_fail` show of
sides that fail as they have to that they have ended.
-/

namespace DirectShare.Transfer

open Handshake Exchange

variable {plan : Plan} {w w' : World} {key? : Option SharedKey}

/-! ### The sides in the phases -/

/-- A receiver has answered with a version, and waits for an announcement. -/
structure ReceiverListens (plan : Plan) (key? : Option SharedKey) (r : Receiver) (said : List Receiver.Intent) :
    Prop where
  settings : r.settings = plan.receiver
  stage : r.stage = .versionNegotiated
  channel : r.channel = listening key?
  reported : r.reported = none
  silent : said.filterMap (·.result?) = []
  agreed : plan.ReceiverAgreed said

/-- A sender has announced its task. -/
structure SenderAnnounces (plan : Plan) (key? : Option SharedKey) (s : Sender) (table : TaskTable)
    (said : List Sender.Intent) : Prop where
  job : s.job = some plan.job
  stage : s.stage = .requestSent
  channel : s.channel = announcing key?
  listed : table.Has plan.task .offered
  silent : said.filterMap (·.result?) = []
  agreed : plan.SenderAgreed said

/-- A sender waits for the report: what the download service was granted, the acknowledgement of the
announcement if it is still under way, and whether the sender is to be told that the download has begun. -/
inductive SenderWaits (plan : Plan) (key? : Option SharedKey) (s : Sender) (table : TaskTable)
    (grants : List TaskTable.Grant) : List Bytes → List Cue → Prop
  | unacknowledged : s.stage = .requestSent → s.channel = announcing key? → table.Has plan.task .offered →
      grants = [] → SenderWaits plan key? s table grants [requestAckFrame] []
  | requested : s.stage = .requestAcked → s.channel = waiting key? → table.Has plan.task .requested →
      grants = [] → SenderWaits plan key? s table grants [] []
  | granted : s.stage = .requestAcked → s.channel = waiting key? → table.Has plan.task .serving →
      grants = [plan.grant] → SenderWaits plan key? s table grants [] [.serve]
  | serving : s.stage = .serving → s.channel = waiting key? → table.Has plan.task .serving →
      grants = [plan.grant] → SenderWaits plan key? s table grants [] []

/-- A receiver has reported what it has to. -/
structure Reported (plan : Plan) (key? : Option SharedKey) (outcome : Outcome) (r : Receiver)
    (said : List Receiver.Intent) (grants : List TaskTable.Grant) : Prop where
  isOpen : r.stage.isTerminal = false
  reported : r.reported = some outcome
  channel : r.channel = reporting key?
  outcome : outcome = .ok ∧ plan.failure? = none ∧ plan.arrival ∈ said ∨
    outcome = .refused ∧ plan.failure? = some .transferRefused
  grants : grants = plan.grants

/-- A receiver works on the task: what the download service was granted for it, what is to be done, and
the report if it is under way. -/
inductive ReceiverWorks (plan : Plan) (key? : Option SharedKey) (r : Receiver) (said : List Receiver.Intent)
    (grants : List TaskTable.Grant) : List Cue → List Bytes → Prop
  | asks : plan.task.text = none → plan.receiver.autoAccept = false →
      worstVersion plan.sender plan.receiver ≤ bestVersion plan.sender plan.receiver →
      r.stage = .requestReceived → r.awaitingDecision = true → r.channel = asked key? → r.reported = none →
      grants = [] → ReceiverWorks plan key? r said grants [.decide] []
  | fetches : plan.task.text = none → plan.failure? = none → r.stage = .downloading → r.channel = asked key? →
      r.reported = none → .download plan.task.id ∈ said → grants = [] →
      ReceiverWorks plan key? r said grants [.download plan.task.id] []
  | downloads : plan.task.text = none → plan.failure? = none → r.stage = .downloading → r.channel = asked key? →
      r.reported = none → .download plan.task.id ∈ said → grants = [plan.grant] →
      ReceiverWorks plan key? r said grants [.finish (.ok (plan.task.files.map (·.name)))] []
  | reported {outcome : Outcome} {reason : String} {report : Bytes} :
      Reported plan key? outcome r said grants →
      IsReport plan.tools.provider key? plan.task.id outcome reason report →
      ReceiverWorks plan key? r said grants [] [report]

/-- The sender has ended as it has to, and the table says so. -/
structure SenderEnded (plan : Plan) (s : Sender) (table : TaskTable) (said : List Sender.Intent) : Prop where
  isTerminal : s.stage.isTerminal = true
  result : ∃ result, said.filterMap (·.result?) = [result] ∧ plan.Ends result
  table : table.Has plan.task (.ended plan.verdict)

/-- The receiver has ended as it has to. -/
structure ReceiverEnded (plan : Plan) (r : Receiver) (said : List Receiver.Intent) : Prop where
  isTerminal : r.stage.isTerminal = true
  result : ∃ result, said.filterMap (·.result?) = [result] ∧ plan.Ends result
  arrival : plan.failure? = none → plan.arrival ∈ said

/-- A sender whose announcement is acknowledged waits for the report. -/
lemma SenderWaits.acknowledged {s : Sender} {table : TaskTable} {grants : List TaskTable.Grant} {serve : List Cue}
    (h : SenderWaits plan key? s table grants [] serve) :
    (s.stage = .requestAcked ∨ s.stage = .serving) ∧ s.channel = waiting key? ∧
      (∃ state, table.Has plan.task state ∧ state.isTerminal = false) ∧ (serve = [] ∨ serve = [.serve]) := by
  cases h with
  | requested hstage hchannel hlisted _ => exact ⟨.inl hstage, hchannel, ⟨_, hlisted, rfl⟩, .inl rfl⟩
  | granted hstage hchannel hlisted _ => exact ⟨.inl hstage, hchannel, ⟨_, hlisted, rfl⟩, .inr rfl⟩
  | serving hstage hchannel hlisted _ => exact ⟨.inr hstage, hchannel, ⟨_, hlisted, rfl⟩, .inl rfl⟩

/-- The download service, which was granted nothing so far, is granted the task after it was requested. -/
lemma SenderWaits.grant_cases {s : Sender} {table : TaskTable} {grants : List TaskTable.Grant} {acks : List Bytes}
    {serve : List Cue} (h : SenderWaits plan key? s table grants acks serve) (hgrants : grants = []) :
    table.grant plan.task.id = .error (.notRequested plan.task.id) ∨
      acks = [] ∧ serve = [] ∧ s.stage = .requestAcked ∧ s.channel = waiting key? ∧
        ∃ table', table.grant plan.task.id = .ok (plan.grant, table') ∧ table'.Has plan.task .serving := by
  cases h with
  | unacknowledged _ _ hlisted _ => exact .inl hlisted.grant_offered
  | requested hstage hchannel hlisted _ => exact .inr ⟨rfl, rfl, hstage, hchannel, hlisted.grant⟩
  | granted _ _ _ hone =>
    rw [hgrants] at hone
    cases hone
  | serving _ _ _ hone =>
    rw [hgrants] at hone
    cases hone

/-- A receiver that works on the task has not ended. -/
lemma ReceiverWorks.isTerminal_eq {r : Receiver} {said : List Receiver.Intent} {grants : List TaskTable.Grant}
    {work : List Cue} {reports : List Bytes} (h : ReceiverWorks plan key? r said grants work reports) :
    r.stage.isTerminal = false := by
  cases h with
  | asks _ _ _ hstage =>
    rw [hstage]
    rfl
  | fetches _ _ hstage =>
    rw [hstage]
    rfl
  | downloads _ _ hstage =>
    rw [hstage]
    rfl
  | reported hreported => exact hreported.isOpen

/-! ### The phases -/

/-- Both sides are on their way to an open channel. -/
structure Meeting (plan : Plan) (known : Option (Option CredentialKey)) (w : World) : Prop where
  sender : SenderMeets plan known w.senderSeen w.sender w.table w.senderSaid w.toReceiver
  receiver : ReceiverMeets plan known w.receiverSeen w.receiver w.receiverSaid
  toSender : w.toSender = []
  cues : w.cues = []
  grants : w.grants = []

/-- Both channels are open. -/
structure Opened (w : World) : Prop where
  senderSeen : w.senderSeen = 5
  receiverSeen : w.receiverSeen = 4

/-- The receiver has found no version in common, and has answered so. -/
structure Parting (plan : Plan) (crypto : Option CryptoContext) (w : World) : Prop extends Opened w where
  apart : bestVersion plan.sender plan.receiver < worstVersion plan.sender plan.receiver
  sender : SenderOffers plan crypto w.sender w.table w.senderSaid
  receiver : ReceiverEnded plan w.receiver w.receiverSaid
  toReceiver : w.toReceiver = []
  toSender : w.toSender = [answerFrame (Receiver.answer plan.receiver (Sender.offer plan.sender crypto))]
  cues : w.cues = []
  grants : w.grants = []

/-- The receiver has answered with a version. -/
structure Answered (plan : Plan) (env : Surroundings) (crypto : Option CryptoContext)
    (key? : Option SharedKey) (ack : VersionOffer) (w : World) : Prop extends Opened w where
  together : worstVersion plan.sender plan.receiver ≤ bestVersion plan.sender plan.receiver
  settled : Settled plan.tools.provider plan.sender plan.receiver crypto env ack key?
  sender : SenderOffers plan crypto w.sender w.table w.senderSaid
  receiver : ReceiverListens plan key? w.receiver w.receiverSaid
  toReceiver : w.toReceiver = []
  toSender : w.toSender = [answerFrame ack]
  cues : w.cues = []
  grants : w.grants = []

/-- The sender has announced its task. -/
structure Announced (plan : Plan) (key? : Option SharedKey) (bytes : Bytes) (w : World) : Prop
    extends Opened w where
  together : worstVersion plan.sender plan.receiver ≤ bestVersion plan.sender plan.receiver
  announcement : IsAnnouncement plan.tools.provider key? plan.request bytes
  sender : SenderAnnounces plan key? w.sender w.table w.senderSaid
  receiver : ReceiverListens plan key? w.receiver w.receiverSaid
  toReceiver : w.toReceiver = [bytes]
  toSender : w.toSender = []
  cues : w.cues = []
  grants : w.grants = []

/-- Both sides know of the task, and the report has not reached the sender. -/
structure Busy (plan : Plan) (key? : Option SharedKey) (acks reports : List Bytes) (serve work : List Cue)
    (w : World) : Prop extends Opened w where
  sender : SenderWaits plan key? w.sender w.table w.grants acks serve
  receiver : ReceiverWorks plan key? w.receiver w.receiverSaid w.grants work reports
  job : w.sender.job = some plan.job
  request : w.receiver.request = some plan.request
  toReceiver : w.toReceiver = []
  toSender : w.toSender = acks ++ reports
  cues : w.cues = serve ++ work
  silent : w.senderSaid.filterMap (·.result?) = []
  silent' : w.receiverSaid.filterMap (·.result?) = []
  agreed : plan.SenderAgreed w.senderSaid
  agreed' : plan.ReceiverAgreed w.receiverSaid

/-- The sender has acknowledged the report. It may still have to be told that the download had begun. -/
structure Replied (plan : Plan) (key? : Option SharedKey) (outcome : Outcome) (w : World) : Prop
    extends Opened w where
  sender : SenderEnded plan w.sender w.table w.senderSaid
  receiver : Reported plan key? outcome w.receiver w.receiverSaid w.grants
  request : w.receiver.request = some plan.request
  toReceiver : w.toReceiver = [statusAckFrame]
  toSender : w.toSender = []
  cues : w.cues = [] ∨ w.cues = [.serve]
  silent' : w.receiverSaid.filterMap (·.result?) = []
  agreed : plan.SenderAgreed w.senderSaid
  agreed' : plan.ReceiverAgreed w.receiverSaid

/-- Both sides have ended. The sender may still have to be told that the download had begun. -/
structure Ended (plan : Plan) (w : World) : Prop extends Opened w where
  sender : SenderEnded plan w.sender w.table w.senderSaid
  receiver : ReceiverEnded plan w.receiver w.receiverSaid
  toReceiver : w.toReceiver = []
  toSender : w.toSender = []
  cues : w.cues = [] ∨ w.cues = [.serve]
  agreed : worstVersion plan.sender plan.receiver ≤ bestVersion plan.sender plan.receiver →
    plan.SenderAgreed w.senderSaid ∧ plan.ReceiverAgreed w.receiverSaid
  grants : w.grants = plan.grants

/-- The phases of a transfer. -/
inductive Phase (plan : Plan) (w : World) : Prop
  | meeting (known : Option (Option CredentialKey)) : Meeting plan known w → Phase plan w
  | parting (crypto : Option CryptoContext) : Parting plan crypto w → Phase plan w
  | answered (env : Surroundings) (crypto : Option CryptoContext) (key? : Option SharedKey)
      (ack : VersionOffer) : Answered plan env crypto key? ack w → Phase plan w
  | announced (key? : Option SharedKey) (bytes : Bytes) : Announced plan key? bytes w → Phase plan w
  | busy (key? : Option SharedKey) (acks reports : List Bytes) (serve work : List Cue) :
      Busy plan key? acks reports serve work w → Phase plan w
  | replied (key? : Option SharedKey) (outcome : Outcome) : Replied plan key? outcome w → Phase plan w
  | ended : Ended plan w → Phase plan w

/-- The transfer is in some phase, and less is left to happen than before. -/
def Advances (plan : Plan) (w w' : World) : Prop := Phase plan w' ∧ w'.remaining < w.remaining

/-- A step that takes something off the load leads on. -/
lemma Advances.of_load (h : Phase plan w') (hs : w'.senderSeen = w.senderSeen)
    (hr : w'.receiverSeen = w.receiverSeen) (hload : w'.load < w.load) : Advances plan w w' := by
  refine ⟨h, ?_⟩
  rw [World.remaining, World.remaining, hs, hr]
  omega

/-! ### What the plan determines -/

/-- A transfer between versions that do not meet has to fail for that. -/
lemma failure?_of_apart (h : bestVersion plan.sender plan.receiver < worstVersion plan.sender plan.receiver) :
    plan.failure? = some .versionUnsupported := by
  rw [Plan.failure?, if_pos h]

/-- A transfer between versions that meet fails exactly if the user is asked and refuses. -/
lemma failure?_of_together
    (h : worstVersion plan.sender plan.receiver ≤ bestVersion plan.sender plan.receiver) :
    plan.failure? =
      if plan.task.text = none ∧ plan.receiver.autoAccept = false ∧ plan.accept = false then
        some .transferRefused
      else none := by
  rw [Plan.failure?, if_neg (UInt32.not_lt.2 h)]

/-- A transfer that has no reason to fail ends with its task. -/
lemma ends_ok (h : plan.failure? = none) : plan.Ends (.ok plan.task.id) := by
  simp [Plan.Ends, h]

/-- A transfer that has a reason to fail ends with a failure of that kind. -/
lemma ends_error {e : Failure} (h : plan.failure? = some e.kind) : plan.Ends (.error e) := by
  simp [Plan.Ends, h]

/-- A transfer that has no reason to fail leaves its task completed. -/
lemma verdict_of_none (h : plan.failure? = none) : plan.verdict = .completed := by
  simp [Plan.verdict, h]

/-- A transfer that has a reason to fail leaves its task failed. -/
lemma verdict_of_some {kind : Failure.Kind} (h : plan.failure? = some kind) : plan.verdict = .failed := by
  simp [Plan.verdict, h]

/-- In a transfer that has a reason to fail nothing is granted. -/
lemma grants_of_some {kind : Failure.Kind} (h : plan.failure? = some kind) : plan.grants = [] := by
  simp [Plan.grants, h]

/-- The request of a plan names its task. -/
lemma task?_request (hplan : plan.Works) : plan.request.task? = some plan.task.id :=
  task?_announce _ _ _ _ hplan.named

/-- A receiver that has the request of a plan knows its task. -/
lemma task?_of_request (hplan : plan.Works) {r : Receiver} (h : r.request = some plan.request) :
    r.task? = some plan.task.id := by
  rw [Receiver.task?, h]
  exact task?_request hplan

/-- The announcement of a plan is opened, with or without a key. -/
lemma opensAnnouncement (hplan : plan.Works) : OpensAnnouncement plan.tools.provider key? plan.request :=
  fun _ _ _ => hplan.tools.opens.reopens _

/-- The report of a plan is opened, with or without a key. -/
lemma opensReport (hplan : plan.Works) (outcome : Outcome) (reason : String) :
    OpensReport plan.tools.provider key? plan.task.id outcome reason :=
  fun _ _ _ => hplan.tools.opens.reopens _

/-! ### Ends -/

/-- What is said after nothing of a kind is all of that kind. -/
lemma filterMap_append_of_silent {α β : Type} {f : α → Option β} {said intents : List α}
    (h : said.filterMap f = []) : (said ++ intents).filterMap f = intents.filterMap f := by
  rw [List.filterMap_append, h, List.nil_append]

/-- A sender that fails as it has to has ended. -/
theorem senderEnded_fail {env : Surroundings} {e : Failure} {t : Sender.Turn} {state : TaskState}
    {said : List Sender.Intent} (hjob : t.session.job = some plan.job) (hlisted : t.table.Has plan.task state)
    (hopen : state.isTerminal = false) (hkind : plan.failure? = some e.kind)
    (hsilent : said.filterMap (·.result?) = []) (hquiet : t.intents.filterMap (·.result?) = []) :
    SenderEnded plan (Sender.fail env e t).session (Sender.fail env e t).table
      (said ++ (Sender.fail env e t).intents) where
  isTerminal := rfl
  result := by
    refine ⟨.error e, ?_, ends_error hkind⟩
    show (said ++ (t.intents ++ [Sender.Intent.finished (.error e)])).filterMap (·.result?) = _
    rw [filterMap_append_of_silent hsilent, filterMap_append_of_silent hquiet]
    rfl
  table := by
    obtain ⟨table, hfinish, hended⟩ := hlisted.finish hopen .failed env.now
    have htable : (Sender.fail env e t).table = table := by
      simp only [Sender.fail, hjob]
      rw [show plan.job.taskId = plan.task.id from rfl, hfinish]
      rfl
    rw [htable, verdict_of_some hkind]
    exact hended

/-- A receiver that fails as it has to has ended. -/
theorem receiverEnded_fail {e : Failure} {t : Receiver.Turn} {said : List Receiver.Intent}
    (hkind : plan.failure? = some e.kind) (hsilent : said.filterMap (·.result?) = [])
    (hquiet : t.intents.filterMap (·.result?) = []) :
    ReceiverEnded plan (Receiver.fail e t).session (said ++ (Receiver.fail e t).intents) where
  isTerminal := rfl
  result := by
    refine ⟨.error e, ?_, ends_error hkind⟩
    show (said ++ (t.intents ++ [Receiver.Intent.finished (.error e)])).filterMap (·.result?) = _
    rw [filterMap_append_of_silent hsilent, filterMap_append_of_silent hquiet]
    rfl
  arrival := by
    rw [hkind]
    nofun

end DirectShare.Transfer
