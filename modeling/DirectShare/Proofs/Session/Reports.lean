import Mathlib
import DirectShare.Proofs.Session.Announcements
import DirectShare.Proofs.Task.Table

/-!
# Reports

A receiver sends one action in its life, the report of how its task ended; everything else it sends
are acknowledgements. The report is also the only thing it seals. A sender never seals under the nonces
of a receiver, so that a sealing with such a nonce is a report.

`Receiver.sends` says that every frame of a receiver is an acknowledgement (`IsAck`) or its report, and
`Receiver.isReport_of_makes` that all it seals are reports (`Sealing.IsReport`). A turn in which a receiver
reports is `Receiver.Reported`, and one in which it has got what was announced `Receiver.Delivers`. On the
other side `Sender.not_makes` excludes sealings with the nonces of a receiver, and `Sender.hears` says what a
sender makes of a report.
-/

namespace DirectShare

open Receiver (reportJson)

/-- The bytes are a frame with an acknowledgement. -/
def IsAck (bytes : Bytes) : Prop := ∃ f, Frame.decode bytes = .ok f ∧ f.kind = .ack

/-- The frame of an action is not an acknowledgement. -/
lemma not_isAck_of_decode {bytes : Bytes} {f : Frame} (h : Frame.decode bytes = .ok f)
    (hkind : f.kind = .action) : ¬IsAck bytes := by
  rintro ⟨f', hdecode, hack⟩
  rw [h] at hdecode
  cases hdecode
  rw [hkind] at hack
  cases hack

/-- A report nests few levels. -/
lemma isReadable_reportJson (id : String) (outcome : Outcome) (reason : String) :
    (reportJson id outcome reason).IsReadable Json.maxLevels :=
  (StatusReport.isReadable_toJson _).mono (by decide)

/-- A report tells which task it is about and how that ended. -/
lemma reportJson_injective {id id' : String} {outcome outcome' : Outcome} {reason reason' : String}
    (h : reportJson id outcome reason = reportJson id' outcome' reason') : id = id' ∧ outcome = outcome' := by
  have hread := congrArg (Json.Record.ofJson? (α := StatusReport)) h
  rw [reportJson, reportJson, StatusReport.ofJson?_toJson, StatusReport.ofJson?_toJson] at hread
  have hreport := Option.some.inj hread
  refine ⟨?_, ?_⟩
  · have htask := congrArg StatusReport.task? hreport
    simpa using htask
  · have houtcome := congrArg StatusReport.outcome hreport
    simpa using houtcome

/-- The sealing is that of a report by a receiver, in the frame with the given number. -/
def Sealing.IsReport (x : Sealing) (sequence : UInt32) (id : String) (outcome : Outcome) : Prop :=
  ∃ key counter reason,
    x = .ofBody key .receiver counter .action sequence .status (reportJson id outcome reason) x.ciphertext

/-- A report is sealed under a nonce of a receiver. -/
lemma Sealing.IsReport.nonce_eq {x : Sealing} {sequence : UInt32} {id : String} {outcome : Outcome}
    (h : x.IsReport sequence id outcome) :
    ∃ counter, x.nonce = CryptoContext.nonce .receiver sequence counter := by
  obtain ⟨key, counter, reason, heq⟩ := h
  exact ⟨counter, congrArg Sealing.nonce heq⟩

/-- The text of a sealed report is a report. -/
lemma Sealing.IsReport.parseBytes_eq {x : Sealing} {sequence : UInt32} {id : String} {outcome : Outcome}
    (h : x.IsReport sequence id outcome) :
    ∃ reason, Json.parseBytes x.plaintext = some (reportJson id outcome reason) := by
  obtain ⟨key, counter, reason, heq⟩ := h
  have hplaintext : x.plaintext = Utf8.encode (reportJson id outcome reason).render :=
    congrArg Sealing.plaintext heq
  exact ⟨reason, by rw [hplaintext, Json.parseBytes_render (isReadable_reportJson id outcome reason)]⟩

/-- The fields of a report are read as they were written. -/
lemma eq_of_readBody_report {id reason : String} {outcome : Outcome} {report : StatusReport}
    (h : Channel.readBody .status (some (reportJson id outcome reason)) = .ok report) :
    report.task? = some id ∧ report.outcome = outcome := by
  simp only [Channel.readBody, reportJson, StatusReport.ofJson?_toJson] at h
  cases h
  exact ⟨by simp, by simp⟩

/-- A sealing is a report in one way only. -/
lemma Sealing.IsReport.unique {x : Sealing} {sequence sequence' : UInt32} {id id' : String}
    {outcome outcome' : Outcome} (h : x.IsReport sequence id outcome) (h' : x.IsReport sequence' id' outcome') :
    sequence = sequence' ∧ id = id' ∧ outcome = outcome' := by
  obtain ⟨key, counter, reason, heq⟩ := h
  obtain ⟨key', counter', reason', heq'⟩ := h'
  obtain ⟨hsequence, hbody, -⟩ :=
    Sealing.ofBody_injective (isReadable_reportJson _ _ _) (isReadable_reportJson _ _ _) (heq.symm.trans heq')
  exact ⟨hsequence, reportJson_injective hbody⟩

namespace Channel

variable {p : Provider} {ch ch' : Channel} {sequence : UInt32} {action : Action} {body : Option Json}
  {bytes : Bytes}

/-- An acknowledgement is read as one. -/
lemma isAck_sendAck (h : sendAck p sequence action body ch = .ok bytes ch')
    (hbody : ∀ b, body = some b → b.IsReadable Json.maxLevels) : IsAck bytes := by
  obtain ⟨payload, hseal, rfl⟩ := sendAck_ok h
  exact ⟨⟨.ack, sequence, action, payload⟩, Frame.decode_encode (isReadable_payload hseal hbody), rfl⟩

end Channel

/-! ### What receivers send -/

namespace Receiver

variable {env : Surroundings} {r : Receiver} {event : Event} {t : Turn}

/-- The receiver has reported an outcome of its task. -/
def Reported (id : String) (outcome : Outcome) (t : Turn) : Prop :=
  t.session.reported = some outcome ∧ t.session.task? = some id

/-- The receiver has got what was announced: it shows the text, or has downloaded the files. -/
inductive Delivers (r : Receiver) (event : Event) (t : Turn) : Prop
  | text {request : SendRequest} {id text : String} :
      t.session.request = some request → request.task? = some id → request.catShareText = some text →
      .textReceived id text ∈ t.intents → Delivers r event t
  | files {request : SendRequest} {names : List String} :
      event = .downloadFinished (.ok names) → r.stage = .downloading → r.request = some request →
      mismatch? request names = none → Delivers r event t

/-- A receiver sends acknowledgements, and a report if nothing is reported yet. -/
inductive Sends (r : Receiver) (event : Event) (t : Turn) : Prop
  /-- There are only acknowledgements. -/
  | acks : (∀ bytes, .send bytes ∈ t.intents → IsAck bytes) →
      (t.session.stage.isTerminal = false →
        t.session.reported = r.reported ∧ (r.reported.isSome = true → t.session.task? = r.task?)) →
      Sends r event t
  /-- There is a report. -/
  | report (report : Bytes) (sequence : UInt32) (payload : Frame.Payload) (id : String) (outcome : Outcome)
      (reason : String) : r.reported = none →
      Frame.decode report = .ok ⟨.action, sequence, .status, payload⟩ →
      (∀ b, payload = .json b → b = reportJson id outcome reason) → Reported id outcome t →
      (outcome = .ok → Delivers r event t) →
      (∀ bytes, .send bytes ∈ t.intents → IsAck bytes ∨ bytes = report) →
      Sends r event t

/-- The frame with a report is read as an action, and its body, if readable, is the report. -/
lemma decode_report {p : Provider} {ch ch' : Channel} {bytes : Bytes} {id : String} {outcome : Outcome}
    {reason : String}
    (h : Channel.sendAction p .status (some (reportJson id outcome reason)) ch = .ok bytes ch') :
    ∃ sequence payload, Frame.decode bytes = .ok ⟨.action, sequence, .status, payload⟩ ∧
      (∀ b, payload = .json b → b = reportJson id outcome reason) := by
  obtain ⟨payload, hdecode, hpayload⟩ := Channel.decode_sendAction h
    (by rintro b hb; cases hb; exact isReadable_reportJson id outcome reason)
  refine ⟨_, payload, hdecode, fun b hb => ?_⟩
  exact (Option.some.inj (hpayload b hb)).symm

/-- An acknowledgement without a body is one. -/
lemma isAck_of_empty {p : Provider} {ch ch' : Channel} {bytes : Bytes} {sequence : UInt32} {action : Action}
    (h : Channel.sendAck p sequence action none ch = .ok bytes ch') : IsAck bytes :=
  Channel.isAck_sendAck h nofun

/-- The answer to an offer is an acknowledgement. -/
lemma isAck_of_offer {p : Provider} {ch ch' : Channel} {bytes : Bytes} {sequence : UInt32} {action : Action}
    {offer : VersionOffer}
    (h : Channel.sendAck p sequence action (some (Json.Record.toJson offer)) ch = .ok bytes ch') :
    IsAck bytes := by
  refine Channel.isAck_sendAck h ?_
  rintro b hb
  cases hb
  exact offer.isReadable_toJson.mono (by decide)

/-- What a receiver sends. -/
theorem sends (h : Coherent r) (hopen : r.stage.isTerminal = false) (hturn : Answers env r event t) :
    Sends r event t := by
  have hquiet : ∀ {s : Stage}, r.stage = s → ¬s.IsBusy → r.reported = none := by
    rintro s rfl hbusy
    exact (h.of_not_busy hopen hbusy).1
  cases hturn with
  | published => exact .acks (by simp) fun _ => ⟨rfl, fun _ => rfl⟩
  | joins => exact .acks (by simp) fun _ => ⟨rfl, fun _ => rfl⟩
  | connects => exact .acks (by simp) fun _ => ⟨rfl, fun _ => rfl⟩
  | connected => exact .acks (by simp) fun _ => ⟨rfl, fun _ => rfl⟩
  | negotiated hconnected hreceive hread hversion hagree hack =>
    refine .acks ?_ fun _ => ⟨rfl, fun _ => rfl⟩
    simpa using isAck_of_offer hack
  | declined hconnected hreceive hread hversion hack =>
    refine .acks ?_ (fun hopen => by cases hopen)
    simpa [fail] using isAck_of_offer hack
  | downloads hnegotiated hreceive hread htask hack htext hauto =>
    refine .acks ?_ fun _ => ⟨rfl, fun hreported => ?_⟩
    · simpa using isAck_of_empty hack
    · simp [hquiet hnegotiated id] at hreported
  | asks hnegotiated hreceive hread htask hack htext hauto =>
    refine .acks ?_ fun _ => ⟨rfl, fun hreported => ?_⟩
    · simpa using isAck_of_empty hack
    · simp [hquiet hnegotiated id] at hreported
  | shows hnegotiated hreceive hread htask hack htext hsend =>
    obtain ⟨sequence, payload, hdecode, hpayload⟩ := decode_report hsend
    refine .report _ sequence payload _ _ _ (hquiet hnegotiated id) hdecode hpayload
      ⟨rfl, by simp [task?, htask]⟩ (fun _ => .text rfl htask htext (by simp)) ?_
    simp [isAck_of_empty hack]
  | unreported channel hnegotiated hreceive hread htask hack htext =>
    refine .acks ?_ (fun hopen => by cases hopen)
    simpa [fail] using isAck_of_empty hack
  | accepts => exact .acks (by simp) fun _ => ⟨rfl, fun _ => rfl⟩
  | refuses hrequested hawaiting htask hsend =>
    obtain ⟨sequence, payload, hdecode, hpayload⟩ := decode_report hsend
    exact .report _ sequence payload _ _ _ (h.asked hopen hawaiting).2 hdecode hpayload
      ⟨rfl, htask⟩ (by simp) (by simp)
  | @downloaded request id report channel result hdownloading hreported hrequest hfault htask hsend =>
    obtain ⟨sequence, payload, hdecode, hpayload⟩ := decode_report hsend
    refine .report _ sequence payload _ _ _ hreported hdecode hpayload ⟨rfl, htask⟩ (fun _ => ?_) (by simp)
    cases result with
    | error reason => cases hfault
    | ok names => exact .files rfl hdownloading hrequest hfault
  | spoiled hdownloading hreported hrequest hfault htask hsend =>
    obtain ⟨sequence, payload, hdecode, hpayload⟩ := decode_report hsend
    exact .report _ sequence payload _ _ _ hreported hdecode hpayload ⟨rfl, htask⟩ (by simp) (by simp [fail])
  | completed => exact .acks (by simp) (fun hopen => by cases hopen)
  | failed => exact .acks (by simp [fail]) (fun hopen => by cases hopen)

/-- A receiver that finishes well has reported so, and the frame it was given acknowledged the report. -/
lemma finished_ok {id : String} (hturn : Answers env r event t) (h : .finished (.ok id) ∈ t.intents) :
    r.reported = some .ok ∧ r.task? = some id ∧ ∃ bytes body channel, event = .frame bytes ∧
      Channel.receive env.provider bytes r.channel = .ok (.ack .status body) channel := by
  cases hturn with
  | completed hreceive hreported htask =>
    obtain rfl : id = _ := by simpa using h
    exact ⟨hreported, htask, _, _, _, rfl, hreceive⟩
  | _ => simp [fail] at h

/-! ### What receivers seal -/

section Sealings

open Act

variable {x : Sealing}

/-- Acknowledging something readable, or nothing, seals nothing. -/
lemma acknowledge_without {sequence : UInt32} {action : Action} {body : Option Json}
    (h : action = .versionNegotiation ∨ body = none) :
    acknowledge (env.without x) sequence action body = acknowledge env sequence action body := by
  have hsend : Channel.sendAck (env.provider.without x) sequence action body =
      Channel.sendAck env.provider sequence action body := by
    funext ch
    cases body with
    | none => rfl
    | some b =>
      obtain rfl : action = .versionNegotiation := by simpa using h
      simp only [Channel.sendAck_eq, Channel.sealBody_plain (.inr rfl)]
  simp only [acknowledge, Surroundings.without, hsend]

/-- The only sealing that a report makes is that of the report. -/
lemma report_without (outcome : Outcome) (reason : String) {t : Turn}
    (hrole : t.session.channel.HasRole .receiver)
    (hp : env.provider.encrypt x.key x.nonce x.header x.plaintext = .ok x.ciphertext) :
    report (env.without x) outcome reason t = report env outcome reason t ∨
      ∃ id sequence channel, t.session.task? = some id ∧ x.IsReport sequence id outcome ∧
        report env outcome reason t =
          .ok ()
            { t with
              session := { t.session with channel, reported := some outcome }
              intents :=
                t.intents ++ [.send (Frame.encode ⟨.action, sequence, .status, .sealed x.ciphertext⟩)] } := by
  rw [report_apply, report_apply]
  cases htask : t.session.task? with
  | none => exact .inl rfl
  | some id =>
    by_cases hsend : Channel.sendAction (env.provider.without x) .status (some (reportJson id outcome reason))
        t.session.channel =
      Channel.sendAction env.provider .status (some (reportJson id outcome reason)) t.session.channel
    · left
      simp only [Surroundings.without, hsend]
    · right
      obtain ⟨b, c, key, hb, hc, hk, -, heq, hok⟩ := Channel.sendAction_without hsend hp
      cases hb
      rw [hrole c hc] at heq
      refine ⟨id, t.session.channel.nextSequence,
        { t.session.channel with
          nextSequence := t.session.channel.nextSequence + 1
          pending := some (t.session.channel.nextSequence, .status)
          crypto := some c.afterSealing }, rfl, ⟨key, c.sent, reason, heq⟩, ?_⟩
      simp only [hok]

/-- With and without a sealing, a step goes the same way, or both go the same way up to a report and from
there on. -/
def DifferInReport (env : Surroundings) (x : Sealing) (run run' : EStateM.Result Failure Turn Unit) : Prop :=
  run' = run ∨
    ∃ outcome reason, ∃ t : Turn,
      ∃ after : EStateM.Result Failure Turn Unit → EStateM.Result Failure Turn Unit,
      t.session.channel.HasRole .receiver ∧ run = after (report env outcome reason t) ∧
      run' = after (report (env.without x) outcome reason t) ∧
        ∀ t', after (.ok () t') = .ok () t' ∨ ∃ e, after (.ok () t') = .error e t'

/-- A receiver answers an announcement alike with and without a sealing, up to a report. -/
lemma onSendRequest_without {sequence : UInt32} {body : Option Json} {t : Turn}
    (hrole : t.session.channel.HasRole .receiver) :
    DifferInReport env x (onSendRequest env sequence body t)
      (onSendRequest (env.without x) sequence body t) := by
  simp only [onSendRequest, acknowledge_without (.inr rfl), Steps.bind_apply, reading_apply]
  cases Channel.readBody (α := SendRequest) .sendRequest body with
  | error e => exact Or.inl rfl
  | ok request =>
    simp only
    cases request.task? with
    | none => exact Or.inl rfl
    | some id =>
      simp only [Steps.bind_apply, acknowledge, onChannel_apply, staged_channel, staged_withChannel]
      cases hack : Channel.sendAck env.provider sequence .sendRequest none t.session.channel with
      | error e channel => exact Or.inl rfl
      | ok bytes channel =>
        have hchannel : t.session.channel = channel := by
          cases hack
          rfl
        rw [hchannel] at hrole
        simp only [emit_apply, enter_apply, update_apply]
        cases request.catShareText with
        | none => exact Or.inl rfl
        | some text => exact Or.inr ⟨.ok, "", _, fun run => run, hrole, rfl, rfl, fun _ => .inl rfl⟩

/-- A receiver follows a decision alike with and without a sealing, up to a report. -/
lemma onDecision_without {accept : Bool} {t : Turn} (hrole : t.session.channel.HasRole .receiver) :
    DifferInReport env x (onDecision env accept t) (onDecision (env.without x) accept t) := by
  simp only [onDecision, Steps.bind_apply, update_apply]
  cases accept with
  | true =>
    simp only [if_true]
    exact Or.inl rfl
  | false =>
    simp only [Bool.false_eq_true, if_false]
    exact Or.inr ⟨.refused, "user refuse",
      { t with session := { t.session with awaitingDecision := false } }, fun run => run, hrole, rfl, rfl,
      fun _ => .inl rfl⟩

/-- A run that fails with the given failure, unless it has failed before. -/
def failAfter (failure : Failure) : EStateM.Result Failure Turn Unit → EStateM.Result Failure Turn Unit
  | .ok _ t => .error failure t
  | .error e t => .error e t

/-- A receiver takes the end of a download alike with and without a sealing, up to a report. -/
lemma onDownloadFinished_without {result : Except String (List String)} {t : Turn}
    (hrole : t.session.channel.HasRole .receiver) :
    DifferInReport env x (onDownloadFinished env result t)
      (onDownloadFinished (env.without x) result t) := by
  simp only [onDownloadFinished, Steps.bind_apply, session_apply]
  cases t.session.request with
  | none => exact Or.inl rfl
  | some request =>
    simp only
    cases fault? request result with
    | none => exact Or.inr ⟨.ok, "", t, fun run => run, hrole, rfl, rfl, fun _ => .inl rfl⟩
    | some reason =>
      refine Or.inr ⟨.error, reason, t, failAfter (.described .streamCorrupted reason), hrole, ?_, ?_,
        fun _ => .inr ⟨_, rfl⟩⟩
      · simp only [Steps.bind_apply, Steps.throw_apply]
        cases report env .error reason t <;> rfl
      · simp only [Steps.bind_apply, Steps.throw_apply]
        cases report (env.without x) .error reason t <;> rfl

/-- A receiver takes an offer alike with and without a sealing. -/
lemma onVersionNegotiation_without {sequence : UInt32} {body : Option Json} :
    onVersionNegotiation (env.without x) sequence body = onVersionNegotiation env sequence body := by
  simp only [onVersionNegotiation, acknowledge_without (.inl rfl)]
  rfl

/-- A receiver takes what a frame says alike with and without a sealing, up to a report. -/
lemma onInbound_without {inbound : Inbound} {t : Turn} (hrole : t.session.channel.HasRole .receiver) :
    DifferInReport env x (onInbound env inbound t) (onInbound (env.without x) inbound t) := by
  have hversion : ∀ sequence body, onVersionNegotiation (env.without x) sequence body =
      onVersionNegotiation env sequence body := fun _ _ => onVersionNegotiation_without
  have hrequest : ∀ sequence body, DifferInReport env x (onSendRequest env sequence body t)
      (onSendRequest (env.without x) sequence body t) := fun _ _ => onSendRequest_without hrole
  -- neither the surroundings nor the words of a refusal are to be looked into
  generalize env.without x = env' at hversion hrequest ⊢
  unfold onInbound
  generalize (refuse inbound : Act Unit) = refusal
  simp only [Steps.bind_apply, session_apply]
  cases inbound with
  | ack action body =>
    cases action with
    | status => cases t.session.reported <;> cases t.session.stage <;> exact Or.inl rfl
    | versionNegotiation => cases t.session.stage <;> exact Or.inl rfl
    | sendRequest => cases t.session.stage <;> exact Or.inl rfl
  | action sequence action body =>
    cases t.session.stage with
    | handshakeConnected =>
      cases action with
      | versionNegotiation => exact Or.inl (congrFun (hversion sequence body) _)
      | _ => exact Or.inl rfl
    | versionNegotiated =>
      cases action with
      | sendRequest => exact hrequest sequence body
      | _ => exact Or.inl rfl
    | _ => exact Or.inl rfl

/-- A receiver takes a frame alike with and without a sealing, up to a report. -/
lemma step_frame_without {bytes : Bytes} {t : Turn} (hrole : t.session.channel.HasRole .receiver) :
    DifferInReport env x (step env (.frame bytes) t) (step (env.without x) (.frame bytes) t) := by
  have hsame : Channel.receive (env.without x).provider bytes t.session.channel =
      Channel.receive env.provider bytes t.session.channel := rfl
  simp only [step_frame, Steps.bind_apply, onChannel_apply, staged_channel, staged_withChannel, hsame]
  cases hreceive : Channel.receive env.provider bytes t.session.channel with
  | error e channel => exact Or.inl rfl
  | ok inbound channel => exact onInbound_without (hrole.receive hreceive)

/-- A sealing is made in a report, or makes no difference. -/
lemma step_without (env : Surroundings) (x : Sealing) (event : Event) {t : Turn}
    (hrole : t.session.channel.HasRole .receiver) :
    DifferInReport env x (step env event t) (step (env.without x) event t) := by
  by_cases hframe : ∃ bytes, event = .frame bytes
  · obtain ⟨bytes, rfl⟩ := hframe
    exact step_frame_without hrole
  have hdecision : ∀ accept, DifferInReport env x (onDecision env accept t)
      (onDecision (env.without x) accept t) := fun _ => onDecision_without hrole
  have hfinished : ∀ result, DifferInReport env x (onDownloadFinished env result t)
      (onDownloadFinished (env.without x) result t) := fun _ => onDownloadFinished_without hrole
  have hpublish : publish (env.without x) = publish env := rfl
  have hcredentials : onCredentials (env.without x) = onCredentials env := rfl
  generalize env.without x = env' at hdecision hfinished hpublish hcredentials ⊢
  unfold step
  generalize (refuse event : Act Unit) = refusal
  simp only [Steps.bind_apply, session_apply]
  cases event with
  | frame bytes => exact absurd ⟨bytes, rfl⟩ hframe
  | decision accept =>
    cases t.session.stage with
    | requestReceived =>
      cases t.session.awaitingDecision with
      | false =>
        simp only [Bool.false_eq_true, if_false]
        exact Or.inl rfl
      | true => exact hdecision accept
    | _ => exact Or.inl rfl
  | downloadFinished result =>
    cases t.session.stage with
    | downloading =>
      cases t.session.reported with
      | none => exact hfinished result
      | some outcome =>
        simp only [Option.isNone_some, Bool.false_eq_true, if_false]
        exact Or.inl rfl
    | _ => exact Or.inl rfl
  | publish =>
    cases t.session.stage with
    | idle => exact Or.inl (congrFun hpublish _)
    | _ => exact Or.inl rfl
  | credentialsWritten bytes =>
    cases t.session.stage with
    | advertised => exact Or.inl (congrFun (congrFun hcredentials bytes) _)
    | _ => exact Or.inl rfl
  | _ => cases t.session.stage <;> exact Or.inl rfl

/-- A sealing that a receiver makes is that of a report, which it sends. -/
theorem isReport_of_makes (hrole : r.channel.HasRole .receiver)
    (hx : env.provider.Makes (fun p => handle { env with provider := p } event r) x) :
    ∃ sequence id outcome, x.IsReport sequence id outcome ∧ Reported id outcome (handle env event r) ∧
      .send (Frame.encode ⟨.action, sequence, .status, .sealed x.ciphertext⟩) ∈
        (handle env event r).intents := by
  obtain ⟨hp, hne⟩ := hx
  have hne : handle (env.without x) event r ≠ handle env event r := hne
  cases hopen : r.stage.isTerminal with
  | true =>
    rw [handle_of_isTerminal hopen, handle_of_isTerminal hopen] at hne
    exact absurd rfl hne
  | false =>
    by_cases habort : event = .abort
    · subst habort
      simp [handle] at hne
    · rw [handle_eq hopen habort, handle_eq hopen habort] at hne
      rw [handle_eq hopen habort]
      obtain hsame | ⟨outcome, reason, t, after, hrole, hrun, hrun', hafter⟩ :=
        step_without env x event (t := { session := r }) hrole
      · rw [hsame] at hne
        exact absurd rfl hne
      · rw [hrun, hrun'] at hne
        rw [hrun]
        obtain hsame | ⟨id, sequence, channel, htask, hreport, hok⟩ :=
          report_without outcome reason hrole hp
        · rw [hsame] at hne
          exact absurd rfl hne
        · refine ⟨sequence, id, outcome, hreport, ?_⟩
          rw [hok]
          obtain hnext | ⟨e, hnext⟩ := hafter _
          · rw [hnext]
            exact ⟨⟨rfl, htask⟩, by simp [conclude]⟩
          · rw [hnext]
            exact ⟨⟨rfl, htask⟩, by simp [conclude, fail]⟩

/-- A receiver with a key that shows a text seals the report of it. -/
lemma makes_shown (env : Surroundings) {bytes reply report : Bytes} {sequence : UInt32} {body : Option Json}
    {request : SendRequest} {id text : String} {ch₁ ch₂ ch₃ : Channel} {c : CryptoContext} {key : SharedKey}
    (hnegotiated : r.stage = .versionNegotiated)
    (hreceive : Channel.receive env.provider bytes r.channel = .ok (.action sequence .sendRequest body) ch₁)
    (hread : Channel.readBody .sendRequest body = .ok request) (htask : request.task? = some id)
    (hack : Channel.sendAck env.provider sequence .sendRequest none ch₁ = .ok reply ch₂)
    (htext : request.catShareText = some text)
    (hsend : Channel.sendAction env.provider .status (some (reportJson id .ok "")) ch₂ = .ok report ch₃)
    (hc : ch₂.crypto = some c) (hk : c.key = some key) :
    ∃ ciphertext, report = Frame.encode ⟨.action, ch₂.nextSequence, .status, .sealed ciphertext⟩ ∧
      env.provider.Makes (fun p => handle { env with provider := p } (.frame bytes) r)
        (.ofBody key c.role c.sent .action ch₂.nextSequence .status (reportJson id .ok "") ciphertext) := by
  have hopen : r.stage.isTerminal = false := by rw [hnegotiated]; rfl
  obtain ⟨payload, ch, hpending, hnext, -⟩ := Channel.sendAction_ok hsend
  obtain ⟨ciphertext, hreport, hmade, -⟩ := Channel.makes_sendAction hc hk (by exact nofun) hsend
  refine ⟨ciphertext, hreport, hmade, ?_⟩
  have hturn : handle env (.frame bytes) r = _ :=
    handle_of_answers hopen (.shows hnegotiated hreceive hread htask hack htext hsend) nofun
  have hrefused := Channel.sendAction_refused (p := env.provider) (b := reportJson id .ok "") hc hk
    (show Action.status ≠ .versionNegotiation from nofun) hpending hnext ciphertext
  generalize Sealing.ofBody key c.role c.sent .action ch₂.nextSequence .status (reportJson id .ok "")
    ciphertext = x at hrefused ⊢
  -- the session fails where the report is refused
  have hother : ∃ e, (handle (env.without x) (.frame bytes) r).session.stage = .failed e := by
    have hreceive' : Channel.receive (env.without x).provider bytes r.channel = _ := hreceive
    have hack' : Channel.sendAck (env.provider.without x) sequence .sendRequest none ch₁ = _ := hack
    rw [handle_sendRequest hnegotiated hreceive', onSendRequest_eq hread htask hack']
    simp only [htext, Surroundings.without, hrefused]
    exact ⟨_, rfl⟩
  obtain ⟨e, hfailed⟩ := hother
  intro heq
  have heq : handle (env.without x) (.frame bytes) r = handle env (.frame bytes) r := heq
  rw [heq, hturn] at hfailed
  cases hfailed

end Sealings

end Receiver

/-! ### What senders make of reports -/

namespace Sender

open Act

variable {env : Surroundings} {s : Sender} {table : TaskTable} {event : Event} {x : Sealing}

/-- A sender makes no sealing under a nonce of a receiver. -/
theorem not_makes {sequence counter : UInt32} (hrole : s.channel.HasRole .sender)
    (hx : x.nonce = CryptoContext.nonce .receiver sequence counter) :
    ¬env.provider.Makes (fun p => handle { env with provider := p } event s table) x := by
  intro hmakes
  obtain ⟨j, -, hannounces⟩ := isAnnouncement_of_makes hrole hmakes
  obtain ⟨sequence', counter', hnonce⟩ := hannounces.nonce_eq
  obtain ⟨hside, -, -⟩ := CryptoContext.nonce_injective (hx.symm.trans hnonce)
  cases hside

/-- The outcome in a report that makes a sender end with a failure of the given kind. -/
def outcome? : Failure.Kind → Option Outcome
  | .transferRefused => some .refused
  | .streamCorrupted => some .error
  | _ => none

/-- How a sender ends with a report. -/
def result (id : String) (report : StatusReport) : Except Failure String :=
  match reportFailure? report with
  | none => .ok id
  | some e => .error e

/-- The task of a sender is in the table and has not ended, unless the sender has. -/
def Listed (s : Sender) (table : TaskTable) : Prop :=
  s.stage.isTerminal = false → ∀ j, s.job = some j →
    ∃ state, table.state? j.taskId = some state ∧ state.isTerminal = false

/-- The outcome in a report that makes a sender end with the given result. -/
def resultOutcome? : Except Failure String → Option Outcome
  | .ok _ => some .ok
  | .error e => outcome? e.kind

/-- Success is reported as success. -/
lemma result_eq_ok {id id' : String} {report : StatusReport} (h : result id report = .ok id') :
    report.outcome = .ok ∧ id' = id := by
  rw [result, reportFailure?] at h
  cases houtcome : report.outcome with
  | ok =>
    simp only [houtcome] at h
    cases h
    exact ⟨rfl, rfl⟩
  | error =>
    simp only [houtcome] at h
    cases h
  | refused =>
    simp only [houtcome] at h
    cases h

/-- A failure of the receiver is reported as what it is. -/
lemma result_eq_error {id : String} {e : Failure} {report : StatusReport} (h : result id report = .error e) :
    outcome? e.kind = some report.outcome := by
  rw [result, reportFailure?] at h
  cases houtcome : report.outcome with
  | ok =>
    simp only [houtcome] at h
    cases h
  | error =>
    simp only [houtcome] at h
    cases h
    rfl
  | refused =>
    simp only [houtcome] at h
    cases h
    rfl

/-- No fault is an outcome that a report can tell about. -/
lemma outcome?_of_isFault {e : Failure} (h : IsFault e) : outcome? e.kind = none := by
  obtain ⟨hrefused, hcorrupted, -⟩ := h
  cases hkind : e.kind with
  | transferRefused => exact absurd hkind hrefused
  | streamCorrupted => exact absurd hkind hcorrupted
  | _ => rfl

/-- A sender that fails over a report fails with the outcome in the report. -/
lemma outcome?_of_reportFailure? {report : StatusReport} {e : Failure} (h : reportFailure? report = some e) :
    outcome? e.kind = some report.outcome := by
  have hresult : result "" report = .error e := by rw [result, h]
  exact result_eq_error hresult

/-- A sender that ends with success, or with a failure of the receiver, has got a report of that. -/
lemma report_of_finished {t : Turn} {outcome : Outcome} {ended : Except Failure String}
    (hturn : Answers env s table event t) (h : .finished ended ∈ t.intents)
    (houtcome : resultOutcome? ended = some outcome) :
    ∃ bytes sequence body channel, ∃ (report : StatusReport) (j : Job), event = .frame bytes ∧
      Channel.receive env.provider bytes s.channel = .ok (.action sequence .status body) channel ∧
      Channel.readBody .status body = .ok report ∧ s.job = some j ∧ t.session.job = some j ∧
      (s.stage = .requestAcked ∨ s.stage = .serving) ∧
      report.task?.filter (· ≠ j.taskId) = none ∧ report.outcome = outcome ∧
      (∀ id, ended = .ok id → id = j.taskId) ∧ ∀ version mode, .negotiated version mode ∉ t.intents := by
  have hfault : ∀ e, ended = .error e → ¬IsFault e := by
    rintro e rfl he
    rw [resultOutcome?, outcome?_of_isFault he] at houtcome
    cases houtcome
  cases hturn with
  | completed hstage hreceive hread hjob htask hack hok =>
    obtain rfl : ended = .ok _ := by simpa using h
    cases houtcome
    exact ⟨_, _, _, _, _, _, rfl, hreceive, hread, hjob, hjob, hstage, htask, hok, by rintro _ ⟨⟩; rfl,
      by simp⟩
  | reported hstage hreceive hread hjob htask hack hcause =>
    obtain rfl : ended = .error _ := by simpa [fail] using h
    obtain hfailure | ⟨-, te, -, rfl⟩ := hcause
    · rw [resultOutcome?, outcome?_of_reportFailure? hfailure] at houtcome
      exact ⟨_, _, _, _, _, _, rfl, hreceive, hread, hjob, hjob, hstage, htask, Option.some.inj houtcome,
        by simp, by simp [fail]⟩
    · exact absurd (isFault_task te) (hfault _ rfl)
  | unannounced channel hconnected hreceive hread hhere hthere hsettle he =>
    obtain rfl : ended = .error _ := by simpa [fail] using h
    exact absurd he (hfault _ rfl)
  | failed channel used he =>
    obtain rfl : ended = .error _ := by simpa [fail] using h
    exact absurd he (hfault _ rfl)
  | gaveUp =>
    obtain rfl : ended = .error .aborted := by simpa [giveUp] using h
    cases houtcome
  | _ => simp at h

/-- A sender ends with the report that it hears, and acknowledges nothing else. -/
inductive Hears (env : Surroundings) (s : Sender) (event : Event) (t : Turn) : Prop
  /-- There is no report. -/
  | silent : (∀ bytes, .send bytes ∈ t.intents → ¬IsAck bytes) → (∀ id, .finished (.ok id) ∉ t.intents) →
      (∀ e, .finished (.error e) ∈ t.intents → outcome? e.kind = none ∧ t.session.stage.isTerminal = true) →
      t.session.Listed t.table → Hears env s event t
  /-- There is a report. -/
  | report {bytes : Bytes} (ack : Bytes) {sequence : UInt32} {body : Option Json} {report : StatusReport}
      {j : Job} {channel : Channel} : event = .frame bytes →
      Channel.receive env.provider bytes s.channel = .ok (.action sequence .status body) channel →
      Channel.readBody .status body = .ok report → t.session.job = some j →
      report.task?.filter (· ≠ j.taskId) = none → t.session.stage.isTerminal = true →
      t.intents = [.send ack, .finished (result j.taskId report)] →
      (report.outcome = .ok →
        t.session.stage = .completed ∧ t.table.state? j.taskId = some (.ended .completed)) →
      Hears env s event t

/-- The frame of an action that was sent is not an acknowledgement. -/
lemma not_isAck_of_sendAction {p : Provider} {action : Action} {b : Json} {ch ch' : Channel} {bytes : Bytes}
    (hb : b.IsReadable Json.maxLevels) (h : Channel.sendAction p action (some b) ch = .ok bytes ch') :
    ¬IsAck bytes := by
  obtain ⟨payload, hdecode, -⟩ := Channel.decode_sendAction h (by rintro b' hb'; cases hb'; exact hb)
  exact not_isAck_of_decode hdecode rfl

/-- A sender that has failed is listed, whatever the table. -/
lemma listed_fail (e : Failure) (t : Turn) : (fail env e t).session.Listed (fail env e t).table := nofun

/-- What a sender makes of a report. -/
theorem hears {t : Turn} (hs : s.stage.isTerminal = false) (hlisted : s.Listed table)
    (hturn : Answers env s table event t) : Hears env s event t := by
  have hlisted := hlisted hs
  cases hturn with
  | began hidle hport hsize hregister =>
    refine .silent (by simp) (by simp) (by simp) fun _ j hj => ?_
    cases hj
    exact ⟨.offered, TaskTable.state?_register hregister, rfl⟩
  | crashed => exact .silent (by simp) (by simp) (by simp) fun _ => hlisted
  | described => exact .silent (by simp) (by simp) (by simp) fun _ => hlisted
  | awaits => exact .silent (by simp) (by simp) (by simp) fun _ => hlisted
  | joined => exact .silent (by simp) (by simp) (by simp) fun _ => hlisted
  | offered hjoined hshare hsend =>
    refine .silent ?_ (by simp) (by simp) fun _ => hlisted
    simpa using not_isAck_of_sendAction ((VersionOffer.isReadable_toJson _).mono (by decide)) hsend
  | announced hconnected hreceive hread hhere hthere hsettle hjob hsend =>
    refine .silent ?_ (by simp) (by simp) fun _ => hlisted
    simpa using not_isAck_of_sendAction ((SendRequest.isReadable_toJson _).mono (by decide)) hsend
  | unannounced channel hconnected hreceive hread hhere hthere hsettle he =>
    exact .silent (by simp [fail]) (by simp [fail]) (by simp [fail, outcome?_of_isFault he, Stage.isTerminal])
      (listed_fail _ _)
  | authorized hsent hreceive hjob hrequest =>
    refine .silent (by simp) (by simp) (by simp) fun _ j hj => ?_
    obtain rfl : _ = j := Option.some.inj (hjob.symm.trans hj)
    exact ⟨.requested, TaskTable.state?_request hrequest, rfl⟩
  | serves => exact .silent (by simp) (by simp) (by simp) fun _ => hlisted
  | @completed bytes ack sequence body report j ch₁ ch₂ table' hstage hreceive hread hjob htask hack hok hfinish =>
    obtain ⟨state, hstate, hopen⟩ := hlisted j hjob
    obtain ⟨table'', hfinish', hended⟩ := TaskTable.state?_finish hstate hopen .completed env.now
    obtain rfl : table'' = table' := Except.ok.inj (hfinish'.symm.trans hfinish)
    refine .report ack rfl hreceive hread hjob htask rfl ?_ fun _ => ⟨rfl, hended⟩
    simp [result, reportFailure?, hok]
  | @reported bytes ack sequence body report j ch₁ ch₂ e hstage hreceive hread hjob htask hack hcause =>
    obtain hfailure | ⟨hok, te, hfinish, -⟩ := hcause
    · refine .report ack rfl hreceive hread hjob htask rfl ?_ fun hok => ?_
      · simp [fail, result, hfailure]
      · simp [reportFailure?, hok] at hfailure
    · obtain ⟨state, hstate, hopen⟩ := hlisted j hjob
      obtain ⟨table', hfinish', -⟩ := TaskTable.state?_finish hstate hopen .completed env.now
      rw [hfinish'] at hfinish
      cases hfinish
  | failed channel used he =>
    exact .silent (by simp [fail]) (by simp [fail]) (by simp [fail, outcome?_of_isFault he, Stage.isTerminal])
      (listed_fail _ _)
  | gaveUp =>
    refine .silent (by simp [giveUp]) (by simp [giveUp]) (fun e he => ?_) (fun hopen => by cases hopen)
    obtain rfl : e = .aborted := by simpa [giveUp] using he
    exact ⟨rfl, rfl⟩

end Sender

end DirectShare
