import Mathlib
import DirectShare.Proofs.Session.Net
import DirectShare.Proofs.Session.Reports

/-!
# Agreement on how a task ends

Each side of a network may fail at any moment, and frames may get lost. Even so, a receiver that ends with
success knows that the sender has, and a sender that ends with success, or with a failure of the receiver,
knows that from the receiver.

`Net.Sound` is what holds of every network: both sides are as their events have left them, all frames on the
way were sent, and a report that arrives is one that the receiver has made. `Net.Sound.step` keeps it, with
one lemma for what the sender does and one for what the receiver does. `Net.finished_agree` reads from it how
each side's end tells of the other's.
-/

namespace DirectShare

namespace Net

/-! ### Reports -/

/-- The bytes are a report, readable or sealed. -/
def IsReport (n : Net) (bytes : Bytes) (id : String) (outcome : Outcome) : Prop :=
  ∃ sequence,
    (∃ reason, Frame.decode bytes =
      .ok ⟨.action, sequence, .status, .json (Receiver.reportJson id outcome reason)⟩) ∨
    (∃ x ∈ n.log, Frame.decode bytes = .ok ⟨.action, sequence, .status, .sealed x.ciphertext⟩ ∧
      x.IsReport sequence id outcome)

/-- The receiver has sent a report. -/
def HasReported (n : Net) (id : String) (outcome : Outcome) : Prop :=
  ∃ bytes, .send bytes ∈ n.receiverSaid ∧ n.IsReport bytes id outcome

variable {n : Net} {env : Surroundings}

/-- A report stays one as more is sealed. -/
lemma IsReport.mono {n' : Net} {bytes : Bytes} {id : String} {outcome : Outcome}
    (h : n.IsReport bytes id outcome) (hlog : n.log ⊆ n'.log) : n'.IsReport bytes id outcome := by
  obtain ⟨sequence, hreadable | ⟨x, hx, hsealed⟩⟩ := h
  · exact ⟨sequence, .inl hreadable⟩
  · exact ⟨sequence, .inr ⟨x, hlog hx, hsealed⟩⟩

/-- A receiver that has reported has done so for good. -/
lemma HasReported.mono {n' : Net} {id : String} {outcome : Outcome} (h : n.HasReported id outcome)
    (hsaid : n.receiverSaid ⊆ n'.receiverSaid) (hlog : n.log ⊆ n'.log) : n'.HasReported id outcome := by
  obtain ⟨bytes, hbytes, hreport⟩ := h
  exact ⟨bytes, hsaid hbytes, hreport.mono hlog⟩

/-- A report is no acknowledgement. -/
lemma IsReport.not_isAck {bytes : Bytes} {id : String} {outcome : Outcome}
    (h : n.IsReport bytes id outcome) : ¬IsAck bytes := by
  obtain ⟨sequence, ⟨reason, hreport⟩ | ⟨x, -, hreport, -⟩⟩ := h
  · exact not_isAck_of_decode hreport rfl
  · exact not_isAck_of_decode hreport rfl

/-! ### What holds of every network -/

/-- What holds on the side of the receiver. -/
structure ReceiverSound (n : Net) : Prop where
  /-- The receiver is one that events lead to. -/
  receiver : n.receiver.Coherent
  /-- Frames on their way to the sender were sent. -/
  toSender : ∀ bytes ∈ n.toSender, .send bytes ∈ n.receiverSaid
  /-- Until it reports, a receiver sends acknowledgements. -/
  acks : n.receiver.stage.isTerminal = false → n.receiver.reported = none →
    ∀ bytes, .send bytes ∈ n.receiverSaid → IsAck bytes
  /-- A receiver sends no readable status but a report. -/
  readable : ∀ bytes sequence body, .send bytes ∈ n.receiverSaid →
    Frame.decode bytes = .ok ⟨.action, sequence, .status, .json body⟩ →
    ∃ id outcome reason, body = Receiver.reportJson id outcome reason
  /-- What was sealed under a nonce of the receiver is a report, which was sent. -/
  «sealed» : ∀ x ∈ n.log, ∀ sequence counter, x.nonce = CryptoContext.nonce .receiver sequence counter →
    ∃ id outcome, x.IsReport sequence id outcome ∧
      .send (Frame.encode ⟨.action, sequence, .status, .sealed x.ciphertext⟩) ∈ n.receiverSaid
  /-- A receiver that has not ended remembers what it has reported. -/
  reported : n.receiver.stage.isTerminal = false → ∀ id outcome, n.HasReported id outcome →
    n.receiver.reported = some outcome ∧ n.receiver.task? = some id

/-- What holds on the side of the sender. -/
structure SenderSound (n : Net) : Prop where
  /-- The sender is one that events lead to. -/
  sender : n.sender.Coherent
  /-- Frames on their way to the receiver were sent. -/
  toReceiver : ∀ bytes ∈ n.toReceiver, .send bytes ∈ n.senderSaid
  /-- A sender that has not ended has acknowledged no report. -/
  silent : n.sender.stage.isTerminal = false →
    (∀ bytes, .send bytes ∈ n.senderSaid → ¬IsAck bytes) ∧ ∀ result, .finished result ∉ n.senderSaid
  /-- The task of a sender that has not ended is in the table. -/
  listed : n.sender.Listed n.table
  /-- The sender acknowledges a report, and has ended with success if that is what it reports. -/
  acknowledged : ∀ bytes, .send bytes ∈ n.senderSaid → IsAck bytes → ∃ id outcome,
    n.HasReported id outcome ∧ (outcome = .ok → .finished (.ok id) ∈ n.senderSaid)
  /-- A sender that has ended with success knows that from a report, and the table says so. -/
  completed : ∀ id, .finished (.ok id) ∈ n.senderSaid → n.sender.stage = .completed ∧
    n.HasReported id .ok ∧ n.table.state? id = some (.ended .completed) ∧
      ∃ j, n.sender.job = some j ∧ j.taskId = id
  /-- A sender that has ended with a failure of the receiver knows that from a report. -/
  failed : ∀ e outcome, .finished (.error e) ∈ n.senderSaid → Sender.outcome? e.kind = some outcome →
    ∃ j, n.sender.job = some j ∧ n.HasReported j.taskId outcome

/-- What holds of every network. -/
structure Sound (n : Net) : Prop extends ReceiverSound n, SenderSound n where
  /-- A receiver that has ended with success knows that the sender has. -/
  finished : ∀ id, .finished (.ok id) ∈ n.receiverSaid → .finished (.ok id) ∈ n.senderSaid

/-- Nothing was said at the start. -/
lemma sound_start (S R : Settings) (id : String) (table : TaskTable) : (start S R id table).Sound where
  receiver := Receiver.coherent_start R
  toSender := nofun
  acks _ _ := nofun
  readable := nofun
  «sealed» := nofun
  reported := by
    rintro - id outcome ⟨bytes, hbytes, -⟩
    cases hbytes
  sender := Sender.coherent_start S id
  toReceiver := nofun
  silent _ := ⟨nofun, nofun⟩
  listed _ _ hj := by cases hj
  acknowledged := nofun
  completed := nofun
  failed := nofun
  finished := nofun

/-! ### What reaches the sender -/

/-- The status that a sender takes is a report. -/
lemma Sound.isReport_of_receive (h : n.Sound) (henv : n.Honest env) {bytes : Bytes} {sequence : UInt32}
    {body : Option Json} {report : StatusReport} {channel : Channel} (hsent : .send bytes ∈ n.receiverSaid)
    (hreceive : Channel.receive env.provider bytes n.sender.channel = .ok (.action sequence .status body) channel)
    (hread : Channel.readBody .status body = .ok report) :
    ∃ id, report.task? = some id ∧ n.IsReport bytes id report.outcome := by
  cases body with
  | none => cases hread
  | some b =>
    obtain ⟨hdecode, -⟩ | ⟨c, key, header, ciphertext, plaintext, hc, -, hdecode, hdecrypt, hparse⟩ :=
      Channel.body_of_receive hreceive
    · obtain ⟨id, outcome, reason, rfl⟩ := h.readable bytes sequence b hsent hdecode
      obtain ⟨htask, rfl⟩ := eq_of_readBody_report hread
      exact ⟨id, htask, sequence, .inl ⟨reason, hdecode⟩⟩
    · have hlogged := henv key _ _ _ _ hdecrypt
      rw [h.sender.role c hc] at hlogged
      obtain ⟨id, outcome, hreport, -⟩ := h.sealed _ hlogged sequence c.received rfl
      obtain ⟨reason, hbody⟩ := hreport.parseBytes_eq
      rw [show Json.parseBytes plaintext = some b from hparse] at hbody
      cases hbody
      obtain ⟨htask, rfl⟩ := eq_of_readBody_report hread
      exact ⟨id, htask, sequence, .inr ⟨_, hlogged, hdecode, hreport⟩⟩

/-! ### What both sides do -/

/-- The frames among intents are those that are sent. -/
lemma mem_senderFrames {intents : List Sender.Intent} {bytes : Bytes} :
    bytes ∈ intents.filterMap (·.frame?) ↔ .send bytes ∈ intents := by
  rw [List.mem_filterMap]
  constructor
  · rintro ⟨i, hi, hframe⟩
    cases i with
    | send bytes' =>
      cases hframe
      exact hi
    | _ => cases hframe
  · intro hsend
    exact ⟨_, hsend, rfl⟩

/-- The frames among intents are those that are sent. -/
lemma mem_receiverFrames {intents : List Receiver.Intent} {bytes : Bytes} :
    bytes ∈ intents.filterMap (·.frame?) ↔ .send bytes ∈ intents := by
  rw [List.mem_filterMap]
  constructor
  · rintro ⟨i, hi, hframe⟩
    cases i with
    | send bytes' =>
      cases hframe
      exact hi
    | _ => cases hframe
  · intro hsend
    exact ⟨_, hsend, rfl⟩

/-- A sender that has ended changes nothing. -/
lemma senderDoes_of_isTerminal (hs : n.sender.stage.isTerminal = true) (event : Sender.Event) :
    n.senderDoes env event = n := by
  simp [senderDoes, Sender.handle_of_isTerminal hs, Provider.Makes]

/-- A receiver that has ended changes nothing. -/
lemma receiverDoes_of_isTerminal (hr : n.receiver.stage.isTerminal = true) (event : Receiver.Event) :
    n.receiverDoes env event = n := by
  simp [receiverDoes, Receiver.handle_of_isTerminal hr, Provider.Makes]

/-! ### Every event keeps a network sound -/

section SenderDoes

variable {event : Sender.Event}

/-- What the sender does is no report of the receiver. -/
lemma Sound.hasReported_senderDoes (h : n.Sound) {id : String} {outcome : Outcome} :
    (n.senderDoes env event).HasReported id outcome ↔ n.HasReported id outcome := by
  constructor
  · rintro ⟨bytes, hbytes, sequence, hreadable | ⟨x, hx | hx, hdecode, hreport⟩⟩
    · exact ⟨bytes, hbytes, sequence, .inl hreadable⟩
    · exact ⟨bytes, hbytes, sequence, .inr ⟨x, hx, hdecode, hreport⟩⟩
    · obtain ⟨counter, hnonce⟩ := hreport.nonce_eq
      exact absurd hx (Sender.not_makes h.sender.role hnonce)
  · intro hhas
    exact hhas.mono (fun _ hi => hi) Set.subset_union_left

/-- What the sender does keeps what holds of the receiver. -/
lemma Sound.receiverSound_senderDoes (h : n.Sound) : (n.senderDoes env event).ReceiverSound where
  receiver := h.receiver
  toSender := h.toSender
  acks := h.acks
  readable := h.readable
  «sealed» := by
    rintro x (hx | hx) sequence counter hnonce
    · exact h.sealed x hx sequence counter hnonce
    · exact absurd hx (Sender.not_makes h.sender.role hnonce)
  reported hopen id outcome hhas := h.reported hopen id outcome (h.hasReported_senderDoes.1 hhas)

/-- A report that the sender takes was made by the receiver. -/
lemma Sound.hasReported_of_receive (h : n.Sound) (henv : n.Honest env) {bytes : Bytes} {sequence : UInt32}
    {body : Option Json} {report : StatusReport} {channel : Channel} {id : String}
    (hsent : .send bytes ∈ n.receiverSaid)
    (hreceive : Channel.receive env.provider bytes n.sender.channel = .ok (.action sequence .status body) channel)
    (hread : Channel.readBody .status body = .ok report) (htask : report.task?.filter (· ≠ id) = none) :
    n.HasReported id report.outcome := by
  obtain ⟨id', hid', hreport⟩ := h.isReport_of_receive henv hsent hreceive hread
  obtain rfl : id' = id := by simpa [hid'] using htask
  exact ⟨bytes, hsent, hreport⟩

/-- What the sender does keeps what holds of it. -/
lemma Sound.senderSound_senderDoes (h : n.Sound) (henv : n.Honest env)
    (hevent : ∀ bytes, event = .frame bytes → .send bytes ∈ n.receiverSaid)
    (hs : n.sender.stage.isTerminal = false) : (n.senderDoes env event).SenderSound := by
  obtain ⟨hquiet, hunfinished⟩ := h.silent hs
  have hack : ∀ bytes, .send bytes ∈ (n.senderDoes env event).senderSaid → IsAck bytes →
      .send bytes ∈ (n.sender.handle env event n.table).intents := by
    intro bytes hsend hisack
    exact (List.mem_append.1 hsend).resolve_left fun hold => hquiet bytes hold hisack
  have hfinished : ∀ result, .finished result ∈ (n.senderDoes env event).senderSaid →
      .finished result ∈ (n.sender.handle env event n.table).intents := by
    intro result hresult
    exact (List.mem_append.1 hresult).resolve_left (hunfinished result)
  have hframes : ∀ bytes ∈ (n.senderDoes env event).toReceiver,
      .send bytes ∈ (n.senderDoes env event).senderSaid := by
    intro bytes hbytes
    obtain hold | hnew := List.mem_append.1 hbytes
    · exact List.mem_append_left _ (h.toReceiver bytes hold)
    · exact List.mem_append_right _ (mem_senderFrames.1 hnew)
  have hturn := Sender.hears hs h.listed (Sender.handle_answers env n.table hs event)
  cases hturn with
  | silent hsends hoks herrors hlisted =>
    exact {
      sender := h.sender.handle
      toReceiver := hframes
      silent := by
        intro hopen
        have hopen : (n.sender.handle env event n.table).session.stage.isTerminal = false := hopen
        refine ⟨fun bytes hsend hisack => hsends bytes (hack bytes hsend hisack) hisack, ?_⟩
        rintro (e | id) hresult
        · have hended := (herrors e (hfinished _ hresult)).2
          rw [hopen] at hended
          cases hended
        · exact hoks id (hfinished _ hresult)
      listed := hlisted
      acknowledged := fun bytes hsend hisack => absurd hisack (hsends bytes (hack bytes hsend hisack))
      completed := fun id hresult => absurd (hfinished _ hresult) (hoks id)
      failed := by
        intro e outcome hresult houtcome
        rw [(herrors e (hfinished _ hresult)).1] at houtcome
        cases houtcome }
  | @report bytes ack sequence body report j channel hframe hreceive hread hjob htask hended hintents hcompleted =>
    have hhas : (n.senderDoes env event).HasReported j.taskId report.outcome :=
      h.hasReported_senderDoes.2
        (h.hasReported_of_receive henv (hevent bytes hframe) hreceive hread htask)
    have hresult : ∀ result, .finished result ∈ (n.senderDoes env event).senderSaid →
        Sender.result j.taskId report = result := by
      intro result hresult
      have hmem := hfinished result hresult
      rw [hintents] at hmem
      simpa [eq_comm] using hmem
    have hopen : (n.senderDoes env event).sender.stage.isTerminal = true := hended
    exact {
      sender := h.sender.handle
      toReceiver := hframes
      silent := by
        rw [hopen]
        nofun
      listed := by
        rw [Sender.Listed, hopen]
        nofun
      acknowledged := by
        intro bytes hsend hisack
        refine ⟨j.taskId, report.outcome, hhas, fun hok => List.mem_append_right _ ?_⟩
        rw [hintents]
        simp [Sender.result, Sender.reportFailure?, hok]
      completed := by
        intro id hid
        obtain ⟨hok, rfl⟩ := Sender.result_eq_ok (hresult _ hid)
        rw [hok] at hhas
        obtain ⟨hstage, hstate⟩ := hcompleted hok
        exact ⟨hstage, hhas, hstate, j, hjob, rfl⟩
      failed := by
        intro e outcome he houtcome
        rw [Sender.result_eq_error (hresult _ he)] at houtcome
        cases houtcome
        exact ⟨j, hjob, hhas⟩ }

/-- An event of the sender keeps a network sound, if it is no frame or one that the receiver has sent. -/
lemma Sound.senderDoes (h : n.Sound) (henv : n.Honest env)
    (hevent : ∀ bytes, event = .frame bytes → .send bytes ∈ n.receiverSaid) :
    (n.senderDoes env event).Sound := by
  cases hs : n.sender.stage.isTerminal with
  | true =>
    rw [senderDoes_of_isTerminal hs]
    exact h
  | false =>
    exact {
      toReceiverSound := h.receiverSound_senderDoes
      toSenderSound := h.senderSound_senderDoes henv hevent hs
      finished := fun id hid => List.mem_append_left _ (h.finished id hid) }

end SenderDoes

section ReceiverDoes

variable {event : Receiver.Event}

/-- What the receiver has reported stays so, whatever it does. -/
lemma hasReported_receiverDoes {id : String} {outcome : Outcome} (h : n.HasReported id outcome) :
    (n.receiverDoes env event).HasReported id outcome :=
  h.mono (List.subset_append_left _ _) Set.subset_union_left

/-- A report of the receiver is an earlier one, or one of the turn. -/
lemma Sound.isReport_receiverDoes (h : n.Sound) {bytes : Bytes} {id : String} {outcome : Outcome}
    (hreport : (n.receiverDoes env event).IsReport bytes id outcome) :
    n.IsReport bytes id outcome ∨
      Receiver.Reported id outcome (n.receiver.handle env event) ∧
        ∃ report, .send report ∈ (n.receiver.handle env event).intents ∧ ¬IsAck report := by
  obtain ⟨sequence, hreadable | ⟨x, hx | hx, hdecode, hreport⟩⟩ := hreport
  · exact .inl ⟨sequence, .inl hreadable⟩
  · exact .inl ⟨sequence, .inr ⟨x, hx, hdecode, hreport⟩⟩
  · obtain ⟨sequence', id', outcome', hreport', hreported, hsend⟩ :=
      Receiver.isReport_of_makes h.receiver.role hx
    obtain ⟨-, rfl, rfl⟩ := hreport'.unique hreport
    exact .inr ⟨hreported, _, hsend, not_isAck_of_decode (Frame.decode_encode_sealed ..) rfl⟩

/-- What is reported was reported before, or is reported in the turn. -/
lemma Sound.reported_of_receiverDoes (h : n.Sound) (hr : n.receiver.stage.isTerminal = false) {id : String}
    {outcome : Outcome} (hhas : (n.receiverDoes env event).HasReported id outcome) :
    n.HasReported id outcome ∨
      Receiver.Reported id outcome (n.receiver.handle env event) ∧
        (outcome = .ok → Receiver.Delivers n.receiver event (n.receiver.handle env event)) := by
  obtain ⟨bytes, hbytes, hreport⟩ := hhas
  have hnotack := hreport.not_isAck
  cases Receiver.sends h.receiver hr (Receiver.handle_answers env hr event) with
  | acks hacks =>
    have hold : .send bytes ∈ n.receiverSaid :=
      (List.mem_append.1 hbytes).resolve_right fun hnew => hnotack (hacks bytes hnew)
    obtain hreport | ⟨-, report, hsend, hne⟩ := h.isReport_receiverDoes hreport
    · exact .inl ⟨bytes, hold, hreport⟩
    · exact absurd (hacks report hsend) hne
  | report report sequence payload id' outcome' reason hnone hdecode hpayload hreported hdelivers hsends =>
    -- there was no earlier report
    have hnew : .send bytes ∈ (n.receiver.handle env event).intents :=
      (List.mem_append.1 hbytes).resolve_left fun hold => hnotack (h.acks hr hnone bytes hold)
    obtain rfl : bytes = report := (hsends bytes hnew).resolve_left hnotack
    have hsame : Receiver.Reported id outcome (n.receiver.handle env event) := by
      obtain ⟨sequence', ⟨reason', hjson⟩ | ⟨x, hx, -, hsealing⟩⟩ | ⟨hreported', -⟩ :=
        h.isReport_receiverDoes hreport
      · rw [hdecode] at hjson
        cases hjson
        obtain ⟨rfl, rfl⟩ := reportJson_injective (hpayload _ rfl)
        exact hreported
      · obtain ⟨counter, hnonce⟩ := hsealing.nonce_eq
        obtain ⟨-, -, -, hsend⟩ := h.sealed x hx sequence' counter hnonce
        exact absurd (h.acks hr hnone _ hsend)
          (not_isAck_of_decode (Frame.decode_encode_sealed ..) rfl)
      · exact hreported'
    obtain rfl : outcome' = outcome := Option.some.inj (hreported.1.symm.trans hsame.1)
    exact .inr ⟨hsame, hdelivers⟩

/-- A receiver that has not ended has reported what it remembers. -/
lemma Sound.reported_receiverDoes (h : n.Sound) (hr : n.receiver.stage.isTerminal = false)
    (hopen : (n.receiver.handle env event).session.stage.isTerminal = false) {id : String} {outcome : Outcome}
    (hhas : (n.receiverDoes env event).HasReported id outcome) :
    Receiver.Reported id outcome (n.receiver.handle env event) := by
  obtain hold | ⟨hreported, -⟩ := h.reported_of_receiverDoes hr hhas
  · -- the receiver still remembers the earlier report
    obtain ⟨hremembers, hid⟩ := h.reported hr id outcome hold
    cases Receiver.sends h.receiver hr (Receiver.handle_answers env hr event) with
    | acks hacks hkeeps =>
      obtain ⟨hreported, htask⟩ := hkeeps hopen
      exact ⟨hreported.trans hremembers, (htask (by simp [hremembers])).trans hid⟩
    | report report sequence payload id' outcome' reason hnone =>
      rw [hnone] at hremembers
      cases hremembers
  · exact hreported

/-- What the receiver says is sent. -/
lemma Sound.receiverSound_receiverDoes (h : n.Sound) (hr : n.receiver.stage.isTerminal = false) :
    (n.receiverDoes env event).ReceiverSound where
  receiver := h.receiver.handle
  toSender := by
    intro bytes hbytes
    obtain hold | hnew := List.mem_append.1 hbytes
    · exact List.mem_append_left _ (h.toSender bytes hold)
    · exact List.mem_append_right _ (mem_receiverFrames.1 hnew)
  acks := by
    intro hopen hnone bytes hbytes
    cases Receiver.sends h.receiver hr (Receiver.handle_answers env hr event) with
    | acks hacks hkeeps =>
      obtain hold | hnew := List.mem_append.1 hbytes
      · exact h.acks hr ((hkeeps hopen).1.symm.trans hnone) bytes hold
      · exact hacks bytes hnew
    | report report sequence payload id outcome reason _ _ _ hreported =>
      have hsome := hreported.1
      rw [show (n.receiver.handle env event).session.reported = none from hnone] at hsome
      cases hsome
  readable := by
    intro bytes sequence body hbytes hdecode
    have hnotack := not_isAck_of_decode hdecode rfl
    obtain hold | hnew := List.mem_append.1 hbytes
    · exact h.readable bytes sequence body hold hdecode
    cases Receiver.sends h.receiver hr (Receiver.handle_answers env hr event) with
    | acks hacks => exact absurd (hacks bytes hnew) hnotack
    | report report sequence' payload id outcome reason _ hdecode' hpayload _ _ hsends =>
      obtain rfl : bytes = report := (hsends bytes hnew).resolve_left hnotack
      rw [hdecode'] at hdecode
      cases hdecode
      exact ⟨id, outcome, reason, hpayload _ rfl⟩
  «sealed» := by
    rintro x (hx | hx) sequence counter hnonce
    · obtain ⟨id, outcome, hreport, hsend⟩ := h.sealed x hx sequence counter hnonce
      exact ⟨id, outcome, hreport, List.mem_append_left _ hsend⟩
    · obtain ⟨sequence', id, outcome, hreport, -, hsend⟩ := Receiver.isReport_of_makes h.receiver.role hx
      obtain ⟨counter', hnonce'⟩ := hreport.nonce_eq
      obtain ⟨-, rfl, -⟩ := CryptoContext.nonce_injective (hnonce.symm.trans hnonce')
      exact ⟨id, outcome, hreport, List.mem_append_right _ hsend⟩
  reported := fun hopen _ _ hhas => h.reported_receiverDoes hr hopen hhas

/-- What the receiver does keeps what holds of the sender. -/
lemma Sound.senderSound_receiverDoes (h : n.Sound) : (n.receiverDoes env event).SenderSound where
  sender := h.sender
  toReceiver := h.toReceiver
  silent := h.silent
  listed := h.listed
  acknowledged := by
    intro bytes hsend hisack
    obtain ⟨id, outcome, hhas, hok⟩ := h.acknowledged bytes hsend hisack
    exact ⟨id, outcome, hasReported_receiverDoes hhas, hok⟩
  completed := by
    intro id hid
    obtain ⟨hstage, hhas, hrest⟩ := h.completed id hid
    exact ⟨hstage, hasReported_receiverDoes hhas, hrest⟩
  failed := by
    intro e outcome he houtcome
    obtain ⟨j, hjob, hhas⟩ := h.failed e outcome he houtcome
    exact ⟨j, hjob, hasReported_receiverDoes hhas⟩

/-- A receiver that ends with success has got the acknowledgement of a sender that has. -/
lemma Sound.finished_receiverDoes (h : n.Sound) (hr : n.receiver.stage.isTerminal = false)
    (hevent : ∀ bytes, event = .frame bytes → .send bytes ∈ n.senderSaid) {id : String}
    (hid : .finished (.ok id) ∈ (n.receiver.handle env event).intents) :
    .finished (.ok id) ∈ n.senderSaid := by
  obtain ⟨hreported, htask, bytes, body, channel, hframe, hreceive⟩ :=
    Receiver.finished_ok (Receiver.handle_answers env hr event) hid
  have hisack : IsAck bytes := by
    obtain ⟨f, body', ch, hdecode, -, ⟨hkind, -⟩ | ⟨-, -, hinbound, -⟩⟩ := Channel.receive_ok hreceive
    · exact ⟨f, hdecode, hkind⟩
    · cases hinbound
  obtain ⟨id', outcome, hhas, hok⟩ := h.acknowledged bytes (hevent bytes hframe) hisack
  obtain ⟨hremembers, htask'⟩ := h.reported hr id' outcome hhas
  obtain rfl : id' = id := Option.some.inj (htask'.symm.trans htask)
  exact hok (Option.some.inj (hremembers.symm.trans hreported))

/-- An event of the receiver keeps a network sound, if it is no frame or one that the sender has sent. -/
lemma Sound.receiverDoes (h : n.Sound)
    (hevent : ∀ bytes, event = .frame bytes → .send bytes ∈ n.senderSaid) :
    (n.receiverDoes env event).Sound := by
  cases hr : n.receiver.stage.isTerminal with
  | true =>
    rw [receiverDoes_of_isTerminal hr]
    exact h
  | false =>
    refine { h.receiverSound_receiverDoes hr, h.senderSound_receiverDoes with finished := ?_ }
    intro id hid
    obtain hold | hnew := List.mem_append.1 hid
    · exact h.finished id hold
    · exact h.finished_receiverDoes hr hevent hnew

end ReceiverDoes

/-! ### What others do -/

/-- Lost frames leave a network sound. -/
lemma Sound.loses (h : n.Sound) {toReceiver toSender : List Bytes} (hreceiver : toReceiver.Sublist n.toReceiver)
    (hsender : toSender.Sublist n.toSender) : { n with toReceiver, toSender }.Sound :=
  { h with
    toReceiver := fun bytes hbytes => h.toReceiver bytes (hreceiver.subset hbytes)
    toSender := fun bytes hbytes => h.toSender bytes (hsender.subset hbytes) }

/-- The table may change where the state of the sender's task stays, or goes on to another one while the
sender has not ended. -/
lemma Sound.changes (h : n.Sound) {table : TaskTable}
    (htable : ∀ j, n.sender.job = some j → table.state? j.taskId = n.table.state? j.taskId ∨
      n.table.state? j.taskId = some .requested ∧ table.state? j.taskId = some .serving) :
    { n with table }.Sound := by
  refine { h with listed := ?_, completed := ?_ }
  · intro hopen j hj
    obtain hsame | ⟨-, hserving⟩ := htable j hj
    · obtain ⟨state, hstate, hgoes⟩ := h.listed hopen j hj
      exact ⟨state, hsame.trans hstate, hgoes⟩
    · exact ⟨.serving, hserving, rfl⟩
  · intro id hid
    obtain ⟨hstage, hhas, hstate, j, hj, rfl⟩ := h.completed id hid
    obtain hsame | ⟨hrequested, -⟩ := htable j hj
    · exact ⟨hstage, hhas, hsame.trans hstate, j, hj, rfl⟩
    · rw [hrequested] at hstate
      cases hstate

/-- Every step keeps a network sound. -/
theorem Sound.step {n' : Net} (h : n.Sound) (hstep : Step n n') : n'.Sound := by
  cases hstep with
  | sender env event henv hframe => exact h.senderDoes henv fun bytes he => absurd he (hframe bytes)
  | receiver env event henv hframe => exact h.receiverDoes fun bytes he => absurd he (hframe bytes)
  | toSender env bytes rest henv hqueue =>
    have hrest : rest.Sublist n.toSender := by simp [hqueue]
    have hloses := h.loses (List.Sublist.refl _) hrest
    refine hloses.senderDoes henv ?_
    rintro bytes' he
    cases he
    exact h.toSender bytes (by simp [hqueue])
  | toReceiver env bytes rest henv hqueue =>
    have hrest : rest.Sublist n.toReceiver := by simp [hqueue]
    have hloses := h.loses hrest (List.Sublist.refl _)
    refine hloses.receiverDoes ?_
    rintro bytes' he
    cases he
    exact h.toReceiver bytes (by simp [hqueue])
  | loses toReceiver toSender hreceiver hsender => exact h.loses hreceiver hsender
  | grants id grant table hgrant =>
    obtain ⟨hrequested, hserving, hothers⟩ := TaskTable.state?_grant hgrant
    refine h.changes fun j hj => ?_
    by_cases hid : j.taskId = id
    · subst hid
      exact .inr ⟨hrequested, hserving⟩
    · exact .inl (hothers _ hid)
  | others table hothers =>
    exact h.changes fun j hj => .inl (TaskTable.state?_eq_of_find?_eq (hothers j hj))

/-- Every network that events lead to is sound. -/
lemma sound_of_reaches {S R : Settings} {id : String} {table : TaskTable}
    (h : Relation.ReflTransGen Step (start S R id table) n) : n.Sound := by
  induction h with
  | refl => exact sound_start S R id table
  | tail _ hstep ih => exact ih.step hstep

/-- **Both sides agree on how a task ends.** A receiver that ends with success knows that the sender has,
and that the table says so; a sender that ends with success knows that the receiver has reported success; a
sender that ends with a refusal or with an error of the receiver knows that the receiver has reported it. -/
theorem finished_agree {S R : Settings} {id : String} {table : TaskTable}
    (h : Relation.ReflTransGen Step (start S R id table) n) :
    (∀ id, .finished (.ok id) ∈ n.receiverSaid →
      .finished (.ok id) ∈ n.senderSaid ∧ n.table.state? id = some (.ended .completed)) ∧
    (∀ id, .finished (.ok id) ∈ n.senderSaid → n.HasReported id .ok) ∧
    (∀ e, .finished (.error e) ∈ n.senderSaid →
      (e.kind = .transferRefused → ∃ j, n.sender.job = some j ∧ n.HasReported j.taskId .refused) ∧
      (e.kind = .streamCorrupted → ∃ j, n.sender.job = some j ∧ n.HasReported j.taskId .error)) := by
  have hsound := sound_of_reaches h
  refine ⟨fun id hid => ?_, fun id hid => ?_, fun e he => ⟨fun hkind => ?_, fun hkind => ?_⟩⟩
  · have hsender := hsound.finished id hid
    obtain ⟨-, -, hstate, -⟩ := hsound.completed id hsender
    exact ⟨hsender, hstate⟩
  · obtain ⟨-, hhas, -⟩ := hsound.completed id hid
    exact hhas
  · exact hsound.failed e .refused he (by rw [hkind]; rfl)
  · exact hsound.failed e .error he (by rw [hkind]; rfl)

/-- A text that was shared: both sides have ended with success, and agree on it. -/
theorem finished_agree_text :
    ∃ n, Relation.ReflTransGen Step
        (start { deviceName := "left", encryption := false } { deviceName := "right" } "s"
          { grace := 0, lifetime := 0 }) n ∧
      .finished (.ok "t") ∈ n.receiverSaid ∧ .finished (.ok "t") ∈ n.senderSaid ∧
      n.table.state? "t" = some (.ended .completed) ∧ n.HasReported "t" .ok := by
  let task : SharedTask := { id := "t", text := some "hello" }
  let network := NetworkInfo.plain "ssid" "psk" "mac" 8443
  have hport : network.servicePort? = some 8443 := by decide
  obtain ⟨n, hrun, -, hreceiver, -⟩ :
      ∃ n, Relation.ReflTransGen (Talks task)
          (start { deviceName := "left", encryption := false } { deviceName := "right" } "s"
            { grace := 0, lifetime := 0 }) n ∧
        .finished (.ok task.id) ∈ n.senderSaid ∧ .finished (.ok task.id) ∈ n.receiverSaid ∧ _ :=
    exists_text_run _ _ _ (by decide) (by decide) rfl hport rfl rfl rfl
  have hrun := Relation.ReflTransGen.mono (fun _ _ => Talks.step) _ _ hrun
  obtain ⟨hfinished, hreported, -⟩ := finished_agree hrun
  obtain ⟨hsender, hstate⟩ := hfinished "t" hreceiver
  exact ⟨n, hrun, hreceiver, hsender, hstate, hreported "t" hsender⟩

end Net

end DirectShare
