import Mathlib
import DirectShare.Proofs.Session.Phases

/-!
# Transfers come to their end

In every phase of a transfer there is something left to happen, what happens leads to this or a later phase,
and the last phase is the end that the settings, the task and the user determine.

`Transfer.Phase.step` puts together what each phase says of its steps: every step leads to a phase and leaves
less to happen. `Transfer.Phase.exists_step` names, in every phase but the last, an event that can be next. So
there is no schedule under which a transfer goes on forever or gets stuck, and `Transfer.ends` states that for
any plan.
-/

namespace DirectShare.Transfer

open Handshake Exchange

variable {plan : Plan} {w w' : World} {key? : Option SharedKey}

/-! ### Steps while both sides meet -/

/-- The receiver takes the offer, and chooses a version or fails. -/
lemma Meeting.step_frame {known : Option (Option CredentialKey)} (hplan : plan.Works)
    (h : Meeting plan known w) {env : Surroundings} (henv : plan.Has env) (hseen : w.receiverSeen = 4)
    {bytes : Bytes} {rest : List Bytes} (hqueue : w.toReceiver = bytes :: rest) :
    Advances plan w ({ w with toReceiver := rest }.receiverDoes env (.frame bytes)) := by
  obtain ⟨env', crypto, henv', hshare, rfl, rfl, hsent, hsender⟩ := h.sender.of_frame hqueue
  obtain ⟨hsettings, hstage, hchannel, hreported, hsilent⟩ := h.receiver.of_connected hseen
  by_cases hversion : worstVersion plan.sender plan.receiver ≤ bestVersion plan.sender plan.receiver
  · -- the receiver chooses a version, and agrees on a key if both sides want one
    obtain ⟨ack, key?, hsettled⟩ := exists_settled hplan.tools.cooperates henv'.provider henv.provider hshare
      (R := plan.receiver) (fun _ => hplan.tools.generates _ henv.random)
    have hturn := handle_offer hstage hchannel ⟨env', hshare⟩ (by rw [hsettings]; exact hsettled)
      (by rw [hsettings]; exact hversion)
    rw [hsettings] at hturn
    obtain ⟨log, hw⟩ := World.receiverDoes_eq (w := { w with toReceiver := [] }) hturn
    rw [hw]
    refine .of_load (.answered env crypto key? ack ?_) rfl rfl ?_
    · exact {
        senderSeen := hsent
        receiverSeen := hseen
        together := hversion
        settled := hsettled
        sender := hsender
        receiver := {
          settings := rfl
          stage := rfl
          channel := rfl
          reported := hreported
          silent := filterMap_append_of_silent hsilent
          agreed := by simp [Plan.ReceiverAgreed] }
        toReceiver := rfl
        toSender := congrArg (· ++ [answerFrame ack]) h.toSender
        cues := congrArg (· ++ []) h.cues
        grants := h.grants }
    · simp [World.load, hstage, Receiver.Stage.frames, Receiver.Intent.cue?, h.cues]
  · -- it answers with its range all the same, and fails
    rw [UInt32.not_le] at hversion
    have hturn := handle_offer_unsupported env crypto hstage hchannel (by rw [hsettings]; exact hversion)
    rw [hsettings] at hturn
    obtain ⟨log, hw⟩ := World.receiverDoes_eq (w := { w with toReceiver := [] }) hturn
    rw [hw]
    refine .of_load (.parting crypto ?_) rfl rfl ?_
    · exact {
        senderSeen := hsent
        receiverSeen := hseen
        apart := hversion
        sender := hsender
        receiver := receiverEnded_fail (failure?_of_apart hversion) hsilent rfl
        toReceiver := rfl
        toSender := congrArg (· ++ [answerFrame _]) h.toSender
        cues := congrArg (· ++ []) h.cues
        grants := h.grants }
    · simp [World.load, Receiver.fail, hstage, Receiver.Stage.frames, Receiver.Intent.cue?, h.cues]

/-- While both sides meet, each goes on with its own events, until the receiver takes the offer. -/
lemma Meeting.step {known : Option (Option CredentialKey)} (hplan : plan.Works) (h : Meeting plan known w)
    (hstep : plan.Step w w') : Advances plan w w' := by
  cases hstep with
  | sender env event henv hevent =>
    obtain ⟨hseen, hnext⟩ := h.sender.handle hplan henv h.receiver hevent
    refine ⟨.meeting known ⟨hnext, h.receiver, h.toSender, h.cues, h.grants⟩, ?_⟩
    -- only the number of events that are left changes
    have hframes := h.sender.frames_eq
    have hframes' := hnext.frames_eq
    simp only [World.remaining, World.load, World.senderDoes, Net.senderDoes]
    omega
  | receiver env event henv hevent =>
    -- its first event is to publish its key, from which on the sender knows that
    obtain ⟨hseen, known', hsender, hnext, hquiet, hcues⟩ := h.receiver.handle henv h.sender hevent
    have hqueue : w.toSender ++ (w.receiver.handle env event).intents.filterMap (·.frame?) = [] := by
      rw [h.toSender, hquiet, List.append_nil]
    have htodo : w.cues ++ (w.receiver.handle env event).intents.filterMap (·.cue?) = [] := by
      rw [h.cues, hcues, List.append_nil]
    refine ⟨.meeting known' ⟨hsender, hnext, hqueue, htodo, h.grants⟩, ?_⟩
    have hframes := h.receiver.frames_eq
    have hframes' := hnext.frames_eq
    simp only [World.remaining, World.load, World.receiverDoes, Net.receiverDoes, hcues, List.append_nil]
    omega
  | toSender env bytes rest henv hseen hqueue =>
    rw [h.toSender] at hqueue
    cases hqueue
  | toReceiver env bytes rest henv hseen hqueue =>
    exact h.step_frame hplan henv hseen hqueue
  | cue _ cue before after hcues =>
    rw [h.cues] at hcues
    simp at hcues

/-! ### Steps while one frame is under way -/

/-- When both channels are open, a frame arrives or something is done. -/
lemma Opened.step_cases (h : Opened w) (hstep : plan.Step w w') :
    (∃ env bytes rest, plan.Has env ∧ w.toSender = bytes :: rest ∧
      w' = { w with toSender := rest }.senderDoes env (.frame bytes)) ∨
    (∃ env bytes rest, plan.Has env ∧ w.toReceiver = bytes :: rest ∧
      w' = { w with toReceiver := rest }.receiverDoes env (.frame bytes)) ∨
    ∃ cue before after, w.cues = before ++ cue :: after ∧
      plan.Handles { w with cues := before ++ after } cue w' := by
  cases hstep with
  | sender env event henv hevent =>
    rw [Plan.senderEvent?, h.senderSeen] at hevent
    cases hevent
  | receiver env event henv hevent =>
    rw [Plan.receiverEvent?, h.receiverSeen] at hevent
    cases hevent
  | toSender env bytes rest henv hseen hqueue => exact .inl ⟨env, bytes, rest, henv, hqueue, rfl⟩
  | toReceiver env bytes rest henv hseen hqueue => exact .inr (.inl ⟨env, bytes, rest, henv, hqueue, rfl⟩)
  | cue _ cue before after hcues hhandles => exact .inr (.inr ⟨cue, before, after, hcues, hhandles⟩)

/-- When all that is under way is a frame to the sender, it arrives. -/
lemma Opened.step_toSender (h : Opened w) (hstep : plan.Step w w') {bytes : Bytes}
    (htoSender : w.toSender = [bytes]) (htoReceiver : w.toReceiver = []) (hcues : w.cues = []) :
    ∃ env, plan.Has env ∧ w' = { w with toSender := [] }.senderDoes env (.frame bytes) := by
  obtain ⟨env, bytes', rest, henv, hqueue, rfl⟩ | ⟨env, bytes', rest, henv, hqueue, -⟩ |
    ⟨cue, before, after, hqueue, -⟩ := h.step_cases hstep
  · rw [htoSender] at hqueue
    cases hqueue
    exact ⟨env, henv, rfl⟩
  · rw [htoReceiver] at hqueue
    cases hqueue
  · rw [hcues] at hqueue
    simp at hqueue

/-- When all that is under way is a frame to the receiver, it arrives. -/
lemma Opened.step_toReceiver (h : Opened w) (hstep : plan.Step w w') {bytes : Bytes}
    (htoReceiver : w.toReceiver = [bytes]) (htoSender : w.toSender = []) (hcues : w.cues = []) :
    ∃ env, plan.Has env ∧ w' = { w with toReceiver := [] }.receiverDoes env (.frame bytes) := by
  obtain ⟨env, bytes', rest, henv, hqueue, -⟩ | ⟨env, bytes', rest, henv, hqueue, rfl⟩ |
    ⟨cue, before, after, hqueue, -⟩ := h.step_cases hstep
  · rw [htoSender] at hqueue
    cases hqueue
  · rw [htoReceiver] at hqueue
    cases hqueue
    exact ⟨env, henv, rfl⟩
  · rw [hcues] at hqueue
    simp at hqueue

/-- The sender fails where there is no version in common. -/
lemma Parting.step {crypto : Option CryptoContext} (h : Parting plan crypto w) (hstep : plan.Step w w') :
    Advances plan w w' := by
  obtain ⟨env, -, rfl⟩ := h.step_toSender hstep h.toSender h.toReceiver h.cues
  have hturn := handle_answer_unsupported (R := plan.receiver) env w.table h.sender.stage h.sender.channel
    (by rw [h.sender.settings]; exact h.apart)
  rw [h.sender.settings] at hturn
  have hfailure := failure?_of_apart h.apart
  obtain ⟨log, hw⟩ := World.senderDoes_eq (w := { w with toSender := [] }) hturn
  rw [hw]
  refine .of_load (.ended ?_) rfl rfl ?_
  · exact {
      senderSeen := h.senderSeen
      receiverSeen := h.receiverSeen
      sender := senderEnded_fail h.sender.job h.sender.listed rfl hfailure h.sender.silent rfl
      receiver := h.receiver
      toReceiver := congrArg (· ++ []) h.toReceiver
      toSender := rfl
      cues := .inl h.cues
      agreed := fun htogether => absurd h.apart (UInt32.not_lt.2 htogether)
      grants := h.grants.trans (grants_of_some hfailure).symm }
  · simp [World.load, Sender.fail, h.sender.stage, Sender.Stage.frames]

/-- The sender takes the answer, and announces its task. -/
lemma Answered.step (hplan : plan.Works) {env : Surroundings} {crypto : Option CryptoContext}
    {ack : VersionOffer} (h : Answered plan env crypto key? ack w) (hstep : plan.Step w w') :
    Advances plan w w' := by
  obtain ⟨env', henv, rfl⟩ := h.step_toSender hstep h.toSender h.toReceiver h.cues
  obtain ⟨announcement, hannounce, hturn⟩ := handle_answer (R := plan.receiver) w.table hplan.tools.cooperates
    henv.provider h.sender.stage h.sender.channel h.sender.job (by rw [h.sender.settings]; exact h.settled)
    (by rw [h.sender.settings]; exact h.together)
  rw [h.sender.settings] at hturn
  obtain ⟨log, hw⟩ := World.senderDoes_eq (w := { w with toSender := [] }) hturn
  rw [hw]
  refine .of_load (.announced key? announcement ?_) rfl rfl ?_
  · exact {
      senderSeen := h.senderSeen
      receiverSeen := h.receiverSeen
      together := h.together
      announcement := hannounce
      sender := {
        job := h.sender.job
        stage := rfl
        channel := rfl
        listed := h.sender.listed
        silent := filterMap_append_of_silent h.sender.silent
        agreed := by simp [Plan.SenderAgreed] }
      receiver := h.receiver
      toReceiver := congrArg (· ++ [announcement]) h.toReceiver
      toSender := rfl
      cues := h.cues
      grants := h.grants }
  · simp [World.load, h.sender.stage, Sender.Stage.frames]

/-- A receiver that has taken the announcement works on the task. -/
lemma Announced.advances {bytes : Bytes} (h : Announced plan key? bytes w) {env : Surroundings}
    {t : Receiver.Turn} {reports : List Bytes} {work : List Cue}
    (hturn : w.receiver.handle env (.frame bytes) = t) (hrequest : t.session.request = some plan.request)
    (hworks : ReceiverWorks plan key? t.session (w.receiverSaid ++ t.intents) w.grants work reports)
    (hframes : t.intents.filterMap (·.frame?) = requestAckFrame :: reports)
    (hcues : t.intents.filterMap (·.cue?) = work) (hquiet : t.intents.filterMap (·.result?) = [])
    (hload : t.session.stage.frames + (work.map (·.weight)).sum < 6) :
    Advances plan w ({ w with toReceiver := [] }.receiverDoes env (.frame bytes)) := by
  obtain ⟨log, hw⟩ := World.receiverDoes_eq (w := { w with toReceiver := [] }) hturn
  rw [hw]
  refine .of_load (.busy key? [requestAckFrame] reports [] work ?_) rfl rfl ?_
  · exact {
      senderSeen := h.senderSeen
      receiverSeen := h.receiverSeen
      sender := .unacknowledged h.sender.stage h.sender.channel h.sender.listed h.grants
      receiver := hworks
      job := h.sender.job
      request := hrequest
      toReceiver := rfl
      toSender := by rw [h.toSender, hframes]; rfl
      cues := by rw [h.cues, hcues]
      silent := h.sender.silent
      silent' := (filterMap_append_of_silent h.receiver.silent).trans hquiet
      agreed := h.sender.agreed
      agreed' := List.mem_append_left _ h.receiver.agreed }
  · have hbefore : w.receiver.stage.frames = 6 := by
      rw [h.receiver.stage]
      rfl
    simp only [World.load, h.cues, hcues, List.nil_append, List.map_nil, List.sum_nil]
    omega

/-- The receiver takes the announcement, and shows the text, asks for the files or asks its user. -/
lemma Announced.step (hplan : plan.Works) {bytes : Bytes} (h : Announced plan key? bytes w)
    (hstep : plan.Step w w') : Advances plan w w' := by
  have htask := task?_request hplan
  have hopens : OpensAnnouncement plan.tools.provider key? plan.request := opensAnnouncement hplan
  have hfailure := failure?_of_together h.together
  obtain ⟨env, henv, rfl⟩ := h.step_toReceiver hstep h.toReceiver h.toSender h.cues
  cases htext : plan.task.text with
  | some text =>
    obtain ⟨report, hreport, hturn⟩ := handle_announcement_text hplan.tools.cooperates hopens henv.provider
      h.receiver.stage h.receiver.channel h.announcement htask htext
    refine h.advances hturn rfl (.reported ?_ hreport) rfl rfl rfl (show 1 < 6 by omega)
    exact {
      isOpen := rfl
      reported := rfl
      channel := rfl
      outcome := .inl ⟨rfl, by simp [hfailure, htext], by simp [Plan.arrival, htext]⟩
      grants := h.grants.trans (by simp [Plan.grants, htext]) }
  | none =>
    cases hauto : plan.receiver.autoAccept with
    | true =>
      have hturn := handle_announcement_accepted hopens henv.provider h.receiver.stage h.receiver.channel
        h.announcement htask htext (by rw [h.receiver.settings, hauto])
      refine h.advances hturn rfl (.fetches htext ?_ rfl rfl h.receiver.reported ?_ h.grants) rfl rfl rfl
        (show 1 + 3 < 6 by omega)
      · simp [hfailure, hauto]
      · simp
    | false =>
      have hturn := handle_announcement_asking hopens henv.provider h.receiver.stage h.receiver.channel
        h.announcement htask htext (by rw [h.receiver.settings, hauto])
      exact h.advances hturn rfl (.asks htext hauto h.together rfl rfl rfl h.receiver.reported h.grants)
        rfl rfl rfl (show 1 + 4 < 6 by omega)

/-! ### Steps while both sides know of the task -/

section Busy

variable {acks reports acks' reports' : List Bytes} {serve work serve' work' : List Cue} {env : Surroundings}

/-- The sender goes on waiting. -/
lemma Busy.senderDoes (h : Busy plan key? acks reports serve work w) (env : Surroundings)
    (acks' : List Bytes) (serve' : List Cue) {event : Sender.Event} {t : Sender.Turn}
    (hturn : w.sender.handle env event w.table = t) (hjob : t.session.job = w.sender.job)
    (hwaits : SenderWaits plan key? t.session t.table w.grants acks' serve')
    (hframes : t.intents.filterMap (·.frame?) = []) (hquiet : t.intents.filterMap (·.result?) = [])
    (hload : t.session.stage.frames + (serve'.map (·.weight)).sum <
      w.sender.stage.frames + (serve.map (·.weight)).sum) :
    Advances plan w
      ({ w with toSender := acks' ++ reports, cues := serve' ++ work }.senderDoes env event) := by
  obtain ⟨log, hw⟩ := World.senderDoes_eq
    (w := { w with toSender := acks' ++ reports, cues := serve' ++ work }) hturn
  rw [hw]
  refine .of_load (.busy key? acks' reports serve' work ?_) rfl rfl ?_
  · exact {
      senderSeen := h.senderSeen
      receiverSeen := h.receiverSeen
      sender := hwaits
      receiver := h.receiver
      job := hjob.trans h.job
      request := h.request
      toReceiver := by rw [h.toReceiver, hframes]; rfl
      toSender := rfl
      cues := rfl
      silent := (filterMap_append_of_silent h.silent).trans hquiet
      silent' := h.silent'
      agreed := List.mem_append_left _ h.agreed
      agreed' := h.agreed' }
  · simp only [World.load, h.cues, List.map_append, List.sum_append]
    omega

/-- The receiver goes on with its work, after it has done the one thing that was to be done. -/
lemma Busy.receiverDoes {cue : Cue} (h : Busy plan key? acks [] serve [cue] w) {event : Receiver.Event}
    {t : Receiver.Turn} (hturn : w.receiver.handle env event = t)
    (hrequest : t.session.request = w.receiver.request)
    (hworks : ReceiverWorks plan key? t.session (w.receiverSaid ++ t.intents) w.grants work' reports')
    (hframes : t.intents.filterMap (·.frame?) = reports') (hcues : t.intents.filterMap (·.cue?) = work')
    (hquiet : t.intents.filterMap (·.result?) = [])
    (hload : t.session.stage.frames + (work'.map (·.weight)).sum < w.receiver.stage.frames + cue.weight) :
    Advances plan w ({ w with cues := serve }.receiverDoes env event) := by
  obtain ⟨log, hw⟩ := World.receiverDoes_eq (w := { w with cues := serve }) hturn
  rw [hw]
  refine .of_load (.busy key? acks reports' serve work' ?_) rfl rfl ?_
  · exact {
      senderSeen := h.senderSeen
      receiverSeen := h.receiverSeen
      sender := h.sender
      receiver := hworks
      job := h.job
      request := hrequest.trans h.request
      toReceiver := h.toReceiver
      toSender := by rw [h.toSender, hframes, List.append_nil]
      cues := by rw [hcues]
      silent := h.silent
      silent' := (filterMap_append_of_silent h.silent').trans hquiet
      agreed := h.agreed
      agreed' := List.mem_append_left _ h.agreed' }
  · simp only [World.load, h.cues, hcues, List.map_append, List.sum_append, List.map_cons, List.map_nil,
      List.sum_cons, List.sum_nil]
    omega

/-- The sender takes the report, acknowledges it and has ended. -/
lemma Busy.replies {outcome : Outcome} {report : Bytes} (h : Busy plan key? [] [report] serve [] w)
    (hreported : Reported plan key? outcome w.receiver w.receiverSaid w.grants) {t : Sender.Turn}
    (hturn : w.sender.handle env (.frame report) w.table = t)
    (hended : SenderEnded plan t.session t.table (w.senderSaid ++ t.intents))
    (hframes : t.intents.filterMap (·.frame?) = [statusAckFrame]) :
    Advances plan w ({ w with toSender := [] }.senderDoes env (.frame report)) := by
  obtain ⟨hstage, -, -, hserve⟩ := h.sender.acknowledged
  obtain ⟨log, hw⟩ := World.senderDoes_eq (w := { w with toSender := [] }) hturn
  rw [hw]
  refine .of_load (.replied key? outcome ?_) rfl rfl ?_
  · exact {
      senderSeen := h.senderSeen
      receiverSeen := h.receiverSeen
      sender := hended
      receiver := hreported
      request := h.request
      toReceiver := by rw [h.toReceiver, hframes]; rfl
      toSender := rfl
      cues := by
        show w.cues = [] ∨ w.cues = [.serve]
        rwa [h.cues, List.append_nil]
      silent' := h.silent'
      agreed := List.mem_append_left _ h.agreed
      agreed' := h.agreed' }
  · have hbefore : w.sender.stage.frames = 1 := by
      obtain hstage | hstage := hstage <;> rw [hstage] <;> rfl
    simp only [World.load, Sender.Stage.frames_of_isTerminal hended.isTerminal]
    omega

/-- The sender takes the acknowledgement of the announcement, or the report. -/
lemma Busy.step_frame (hplan : plan.Works) (h : Busy plan key? acks reports serve work w) (henv : plan.Has env)
    {bytes : Bytes} {rest : List Bytes} (hqueue : w.toSender = bytes :: rest) :
    Advances plan w ({ w with toSender := rest }.senderDoes env (.frame bytes)) := by
  rw [h.toSender] at hqueue
  -- the acknowledgement was sent first, so that the report arrives after it
  cases hacks : acks with
  | cons ack acks =>
    subst hacks
    cases h.sender with
    | unacknowledged hstage hchannel hlisted hgrants =>
      cases hqueue
      obtain ⟨table, hrequest, hrequested⟩ := hlisted.request
      have hnext := h.senderDoes env [] []
        (handle_requestAck hstage hchannel h.job hrequest) rfl (.requested rfl rfl hrequested hgrants) rfl rfl
        (by rw [hstage]; exact show 1 + 0 < 2 + 0 by omega)
      rw [← h.cues] at hnext
      exact hnext
  | nil =>
    subst hacks
    obtain ⟨hstage, hchannel, ⟨state, hlisted, hopen⟩, -⟩ := h.sender.acknowledged
    cases h.receiver with
    | asks => cases hqueue
    | fetches => cases hqueue
    | downloads => cases hqueue
    | reported hreported hreport =>
      cases hqueue
      obtain ⟨rfl, hfailure, -⟩ | ⟨rfl, hfailure⟩ := hreported.outcome
      · -- the sender ends with success, and so does the task
        obtain ⟨table, hfinish, hended⟩ := hlisted.finish hopen .completed env.now
        obtain ⟨channel, hturn⟩ := handle_report (j := plan.job) (opensReport hplan _ _) henv.provider hstage hchannel
          h.job hreport hfinish
        exact h.replies hreported hturn
          { isTerminal := rfl
            result := ⟨.ok plan.task.id, filterMap_append_of_silent h.silent, ends_ok hfailure⟩
            table := by rw [verdict_of_none hfailure]; exact hended }
          rfl
      · -- it fails with the refusal, and the task fails
        obtain ⟨channel, hturn⟩ := handle_report_refused (j := plan.job) w.table (opensReport hplan _ _)
          henv.provider hstage hchannel h.job hreport
        exact h.replies hreported hturn (senderEnded_fail h.job hlisted hopen hfailure h.silent rfl) rfl

/-- What is to be done is to be done for one of the sides. -/
lemma Busy.cue_cases (h : Busy plan key? acks reports serve work w) {cue : Cue} {before after : List Cue}
    (hcues : w.cues = before ++ cue :: after) :
    serve = [cue] ∧ before ++ after = work ∨ work = [cue] ∧ before ++ after = serve := by
  have hserve : serve.length ≤ 1 := by cases h.sender <;> simp
  have hwork : work.length ≤ 1 := by cases h.receiver <;> simp
  rw [h.cues, List.append_eq_append_iff] at hcues
  obtain ⟨rest, rfl, rfl⟩ | ⟨rest, rfl, hrest⟩ := hcues
  · have hlength : rest.length + (after.length + 1) ≤ 1 := by simpa using hwork
    obtain rfl : rest = [] := List.length_eq_zero_iff.1 (by omega)
    obtain rfl : after = [] := List.length_eq_zero_iff.1 (by omega)
    exact .inr ⟨rfl, by simp⟩
  · cases rest with
    | nil =>
      subst hrest
      obtain rfl : after = [] := by simpa using hwork
      exact .inr ⟨rfl, rfl⟩
    | cons cue' rest =>
      cases hrest
      have hlength : before.length + (rest.length + 1) ≤ 1 := by simpa using hserve
      obtain rfl : before = [] := List.length_eq_zero_iff.1 (by omega)
      obtain rfl : rest = [] := List.length_eq_zero_iff.1 (by omega)
      exact .inl ⟨rfl, rfl⟩

/-- Telling the sender of the download leads on. -/
lemma Busy.step_serve {cue : Cue} (h : Busy plan key? acks reports [cue] work w)
    (hhandles : plan.Handles { w with cues := work } cue w') : Advances plan w w' := by
  cases h.sender with
  | granted hstage hchannel hlisted hgrants =>
    cases hhandles with
    | serves env henv =>
      have hnext := h.senderDoes env [] []
        (Sender.handle_of_answers (.serves hstage) (by exact nofun)) rfl
        (.serving rfl hchannel hlisted hgrants) rfl rfl (by rw [hstage]; exact show 1 + 0 < 1 + 1 by omega)
      rw [← h.toSender] at hnext
      exact hnext

/-- The download service is granted the task. -/
lemma Busy.grants {id : String} {grant : TaskTable.Grant} {table : TaskTable}
    (h : Busy plan key? acks reports serve [.download id] w) (hgrant : w.table.grant id = .ok (grant, table)) :
    Advances plan w
      { w with
        table
        grants := w.grants ++ [grant]
        cues := serve ++ [.serve, .finish (.ok (grant.files.map (·.name)))] } := by
  cases h.receiver with
  | fetches htext hfailure hstage' hchannel' hreported hsaid hgrants =>
    -- nothing was granted so far, so that the acknowledgement has arrived
    obtain hearly | ⟨rfl, rfl, hstage, hchannel, table', hgrant', hserving⟩ := h.sender.grant_cases hgrants
    · rw [hearly] at hgrant
      cases hgrant
    rw [hgrant'] at hgrant
    cases hgrant
    have hone : w.grants ++ [plan.grant] = [plan.grant] := congrArg (· ++ [plan.grant]) hgrants
    refine .of_load (.busy key? [] [] [.serve] [.finish (.ok (plan.task.files.map (·.name)))] ?_) rfl rfl ?_
    · exact {
        h with
        sender := .granted hstage hchannel hserving hone
        receiver := .downloads htext hfailure hstage' hchannel' hreported hsaid hone
        cues := rfl }
    · simp only [World.load, h.cues, List.nil_append, List.map_cons, List.map_nil, List.sum_cons, List.sum_nil,
        Cue.weight]
      omega

/-- What is to be done for the receiver is done. -/
lemma Busy.step_work (hplan : plan.Works) {cue : Cue} (h : Busy plan key? acks reports serve [cue] w)
    (hhandles : plan.Handles { w with cues := serve } cue w') : Advances plan w w' := by
  have htask := task?_of_request hplan h.request
  cases h.receiver with
  | asks htext hauto htogether hstage hawaiting hchannel hreported hgrants =>
    have hfailure := failure?_of_together htogether
    have hopen : w.receiver.stage.isTerminal = false := by
      rw [hstage]
      rfl
    cases hhandles with
    | decides env henv =>
      cases haccept : plan.accept with
      | true =>
        have hturn : w.receiver.handle env (.decision true) = _ :=
          Receiver.handle_of_answers hopen (.accepts hstage hawaiting htask) (by exact nofun)
        exact h.receiverDoes hturn rfl
          (.fetches htext (by simp [hfailure, haccept]) rfl hchannel hreported (by simp) hgrants) rfl rfl rfl
          (by rw [hstage]; exact show 1 + 3 < 1 + 4 by omega)
      | false =>
        have hfailure : plan.failure? = some .transferRefused := by simp [hfailure, htext, hauto, haccept]
        obtain ⟨report, hreport, hturn⟩ := handle_refusal hplan.tools.cooperates henv.provider hstage hawaiting htask
          hchannel
        refine h.receiverDoes hturn rfl (.reported ?_ hreport) rfl rfl rfl
          (by simp [Receiver.Stage.frames, Cue.weight])
        exact {
          isOpen := hopen
          reported := rfl
          channel := rfl
          outcome := .inr ⟨rfl, hfailure⟩
          grants := hgrants.trans (grants_of_some hfailure).symm }
  | fetches htext hfailure hstage hchannel hreported hsaid hgrants =>
    cases hhandles with
    | grants id grant table hgrant => exact h.grants hgrant
    | denied id e hgrant hne =>
      -- the task is denied only as long as it was not requested, and then it is asked for again
      obtain hearly | ⟨-, -, -, -, table, hgrant', -⟩ := h.sender.grant_cases hgrants
      · rw [hearly] at hgrant
        cases hgrant
        exact absurd rfl hne
      · rw [hgrant'] at hgrant
        cases hgrant
  | downloads htext hfailure hstage hchannel hreported hsaid hgrants =>
    cases hhandles with
    | finishes env result henv =>
      -- the granted files are those of the announcement
      have hfault : Receiver.fault? plan.request (.ok (plan.task.files.map (·.name))) = none :=
        mismatch?_announce plan.task _ plan.id plan.sender.deviceName htext
      obtain ⟨report, hreport, hturn⟩ := handle_download hplan.tools.cooperates henv.provider hstage hreported
        h.request hfault htask hchannel
      refine h.receiverDoes hturn rfl (.reported ?_ hreport) rfl rfl rfl
        (by simp [hstage, Receiver.Stage.frames, Cue.weight])
      exact {
        isOpen := by
          show w.receiver.stage.isTerminal = false
          rw [hstage]
          rfl
        reported := rfl
        channel := rfl
        outcome := .inl ⟨rfl, hfailure, by simp [Plan.arrival, htext, hsaid]⟩
        grants := hgrants.trans (by simp [Plan.grants, htext, hfailure]) }

/-- Every step while both sides know of the task. -/
lemma Busy.step (hplan : plan.Works) (h : Busy plan key? acks reports serve work w) (hstep : plan.Step w w') :
    Advances plan w w' := by
  obtain ⟨env, bytes, rest, henv, hqueue, rfl⟩ | ⟨env, bytes, rest, henv, hqueue, -⟩ |
    ⟨cue, before, after, hcues, hhandles⟩ := h.step_cases hstep
  · exact h.step_frame hplan henv hqueue
  · rw [h.toReceiver] at hqueue
    cases hqueue
  · obtain ⟨rfl, hrest⟩ | ⟨rfl, hrest⟩ := h.cue_cases hcues
    · rw [hrest] at hhandles
      exact h.step_serve hhandles
    · rw [hrest] at hhandles
      exact h.step_work hplan hhandles

end Busy

/-! ### Steps after the report -/

/-- After the sender has ended it is told of the download in vain. -/
lemma SenderEnded.handles {cue : Cue} {before after : List Cue}
    (h : SenderEnded plan w.sender w.table w.senderSaid) (hserve : w.cues = [] ∨ w.cues = [.serve])
    (hcues : w.cues = before ++ cue :: after) (hhandles : plan.Handles { w with cues := before ++ after } cue w') :
    w' = { w with cues := [] } ∧ w'.load < w.load := by
  obtain hserve | hserve := hserve
  · rw [hserve] at hcues
    simp at hcues
  · have hlength := congrArg List.length (hserve.symm.trans hcues)
    simp only [List.length_cons, List.length_nil, List.length_append] at hlength
    obtain rfl : before = [] := List.length_eq_zero_iff.1 (by omega)
    obtain rfl : after = [] := List.length_eq_zero_iff.1 (by omega)
    obtain rfl : Cue.serve = cue := List.head_eq_of_cons_eq (hserve.symm.trans hcues)
    cases hhandles with
    | serves env henv =>
      -- the log does not change either, since nothing is sealed
      rw [World.senderDoes_of_isTerminal (w := { w with cues := [] ++ [] }) h.isTerminal]
      exact ⟨rfl, by simp [World.load, hserve, Cue.weight]⟩

/-- A receiver that has ended has come to its end. -/
lemma Replied.advances {outcome : Outcome} (h : Replied plan key? outcome w) {env : Surroundings}
    {t : Receiver.Turn} (hturn : w.receiver.handle env (.frame statusAckFrame) = t)
    (hended : ReceiverEnded plan t.session (w.receiverSaid ++ t.intents))
    (hframes : t.intents.filterMap (·.frame?) = []) (hcues : t.intents.filterMap (·.cue?) = []) :
    Advances plan w ({ w with toReceiver := [] }.receiverDoes env (.frame statusAckFrame)) := by
  obtain ⟨log, hw⟩ := World.receiverDoes_eq (w := { w with toReceiver := [] }) hturn
  rw [hw]
  refine .of_load (.ended ?_) rfl rfl ?_
  · exact {
      senderSeen := h.senderSeen
      receiverSeen := h.receiverSeen
      sender := h.sender
      receiver := hended
      toReceiver := rfl
      toSender := by rw [h.toSender, hframes]; rfl
      cues := by rw [hcues, List.append_nil]; exact h.cues
      agreed := fun _ => ⟨h.agreed, List.mem_append_left _ h.agreed'⟩
      grants := h.receiver.grants }
  · have hbefore := Receiver.Stage.frames_pos h.receiver.isOpen
    simp only [World.load, Receiver.Stage.frames_of_isTerminal hended.isTerminal, hcues, List.append_nil]
    omega

/-- The receiver takes the acknowledgement of its report and has ended, too. -/
lemma Replied.step (hplan : plan.Works) {outcome : Outcome} (h : Replied plan key? outcome w)
    (hstep : plan.Step w w') : Advances plan w w' := by
  have htask := task?_of_request hplan h.request
  obtain ⟨env, bytes, rest, henv, hqueue, -⟩ | ⟨env, bytes, rest, henv, hqueue, rfl⟩ |
    ⟨cue, before, after, hcues, hhandles⟩ := h.step_cases hstep
  · rw [h.toSender] at hqueue
    cases hqueue
  · rw [h.toReceiver] at hqueue
    cases hqueue
    obtain ⟨rfl, hfailure, harrival⟩ | ⟨rfl, hfailure⟩ := h.receiver.outcome
    · obtain ⟨channel, hturn⟩ := handle_statusAck (e := env) h.receiver.isOpen h.receiver.reported htask
        h.receiver.channel
      exact h.advances hturn
        { isTerminal := rfl
          result := ⟨.ok plan.task.id, filterMap_append_of_silent h.silent', ends_ok hfailure⟩
          arrival := fun _ => List.mem_append_left _ harrival }
        rfl rfl
    · obtain ⟨channel, hturn⟩ := handle_statusAck_refused (e := env) h.receiver.isOpen h.receiver.reported
        h.receiver.channel
      exact h.advances hturn (receiverEnded_fail hfailure h.silent' rfl) rfl rfl
  · obtain ⟨rfl, hload⟩ := h.sender.handles h.cues hcues hhandles
    exact .of_load (.replied key? outcome { h with cues := .inl rfl }) rfl rfl hload

/-- What is left at the end is to tell the sender of the download in vain. -/
lemma Ended.step (h : Ended plan w) (hstep : plan.Step w w') : Advances plan w w' := by
  obtain ⟨env, bytes, rest, henv, hqueue, -⟩ | ⟨env, bytes, rest, henv, hqueue, -⟩ |
    ⟨cue, before, after, hcues, hhandles⟩ := h.step_cases hstep
  · rw [h.toSender] at hqueue
    cases hqueue
  · rw [h.toReceiver] at hqueue
    cases hqueue
  · obtain ⟨rfl, hload⟩ := h.sender.handles h.cues hcues hhandles
    exact .of_load (.ended { h with cues := .inl rfl }) rfl rfl hload

/-! ### All steps -/

/-- Every step leads to a phase, and leaves less to happen. -/
theorem Phase.step (hplan : plan.Works) (h : Phase plan w) (hstep : plan.Step w w') : Advances plan w w' := by
  cases h with
  | meeting _ h => exact h.step hplan hstep
  | parting _ h => exact h.step hstep
  | answered _ _ _ _ h => exact h.step hplan hstep
  | announced _ _ h => exact h.step hplan hstep
  | busy _ _ _ _ _ h => exact h.step hplan hstep
  | replied _ _ h => exact h.step hplan hstep
  | ended h => exact h.step hstep

/-- While both sides know of the task there is a frame under way, or something to be done. -/
lemma Busy.exists_step {acks reports : List Bytes} {serve work : List Cue} {env : Surroundings}
    (henv : plan.Has env) (h : Busy plan key? acks reports serve work w) : ∃ w', plan.Step w w' := by
  have hcues := h.cues
  cases h.sender with
  | unacknowledged => exact ⟨_, .toSender w env _ _ henv h.senderSeen h.toSender⟩
  | granted => exact ⟨_, .cue w _ .serve [] _ hcues (.serves _ env henv)⟩
  | requested hstage hchannel hlisted =>
    cases h.receiver with
    | asks => exact ⟨_, .cue w _ .decide [] [] hcues (.decides _ env henv)⟩
    | fetches =>
      -- the task was requested when the acknowledgement arrived
      obtain ⟨table, hgrant, -⟩ := hlisted.grant
      exact ⟨_, .cue w _ (.download _) [] [] hcues (.grants _ _ _ table hgrant)⟩
    | downloads => exact ⟨_, .cue w _ (.finish _) [] [] hcues (.finishes _ env _ henv)⟩
    | reported => exact ⟨_, .toSender w env _ _ henv h.senderSeen h.toSender⟩
  | serving hstage hchannel hlisted hgrants =>
    cases h.receiver with
    | asks => exact ⟨_, .cue w _ .decide [] [] hcues (.decides _ env henv)⟩
    | fetches _ _ _ _ _ _ hnone =>
      rw [hgrants] at hnone
      cases hnone
    | downloads => exact ⟨_, .cue w _ (.finish _) [] [] hcues (.finishes _ env _ henv)⟩
    | reported => exact ⟨_, .toSender w env _ _ henv h.senderSeen h.toSender⟩

/-- There is a step in every phase but the last one. -/
theorem Phase.exists_step (hplan : plan.Works) (h : Phase plan w) : Ended plan w ∨ ∃ w', plan.Step w w' := by
  obtain ⟨random, hrandom⟩ := hplan.tools.draws
  let env : Surroundings := ⟨plan.tools.provider, plan.tools.suite, random, 0⟩
  have henv : plan.Has env := ⟨rfl, rfl, hrandom⟩
  cases h with
  | meeting _ h =>
    -- once both channels are open the offer is under way
    by_cases hopen : w.senderSeen = 5 ∧ w.receiverSeen = 4
    · obtain ⟨hsent, hseen⟩ := hopen
      obtain ⟨bytes, hqueue⟩ := h.sender.exists_frame hsent
      exact .inr ⟨_, .toReceiver w env _ _ henv hseen hqueue⟩
    · obtain ⟨event, hevent⟩ | ⟨event, hevent⟩ := exists_event h.sender h.receiver (by omega)
      · exact .inr ⟨_, .sender w env event henv hevent⟩
      · exact .inr ⟨_, .receiver w env event henv hevent⟩
  | parting _ h => exact .inr ⟨_, .toSender w env _ _ henv h.senderSeen h.toSender⟩
  | answered _ _ _ _ h => exact .inr ⟨_, .toSender w env _ _ henv h.senderSeen h.toSender⟩
  | announced _ _ h => exact .inr ⟨_, .toReceiver w env _ _ henv h.receiverSeen h.toReceiver⟩
  | busy _ _ _ _ _ h => exact .inr (h.exists_step henv)
  | replied _ _ h => exact .inr ⟨_, .toReceiver w env _ _ henv h.receiverSeen h.toReceiver⟩
  | ended h => exact .inl h

/-- After the last phase a transfer has ended as it has to. -/
lemma Ended.isOver (h : Ended plan w) : plan.IsOver w where
  sender := h.sender.result
  receiver := h.receiver.result
  table := h.sender.table.state?_eq
  agreed := h.agreed
  arrival := h.receiver.arrival
  grants := h.grants

/-! ### Runs -/

variable {table : TaskTable}

/-- At the start both sides are on their way to meet. -/
lemma meeting_start (hnew : table.find? plan.task.id = none) : Meeting plan none (plan.start table) where
  sender := .idle hnew
  receiver := .idle
  toSender := rfl
  cues := rfl
  grants := rfl

/-- Every run leads to a phase. -/
lemma phase_of_run (hplan : plan.Works) (hnew : table.find? plan.task.id = none)
    (hrun : Relation.ReflTransGen plan.Move (plan.start table) w) : Phase plan w := by
  induction hrun with
  | refl => exact .meeting none (meeting_start hnew)
  | tail _ hmove ih =>
    cases hmove with
    | step _ hstep => exact (ih.step hplan hstep).1
    | retries => exact ih

/-- Where both sides have ended, that is the end. -/
lemma Phase.ended_of_isTerminal (h : Phase plan w) (hs : w.sender.stage.isTerminal = true)
    (hr : w.receiver.stage.isTerminal = true) : Ended plan w := by
  cases h with
  | meeting _ h =>
    rw [h.sender.isTerminal_eq] at hs
    cases hs
  | parting _ h =>
    rw [h.sender.stage] at hs
    cases hs
  | answered _ _ _ _ h =>
    rw [h.sender.stage] at hs
    cases hs
  | announced _ _ h =>
    rw [h.sender.stage] at hs
    cases hs
  | busy _ _ _ _ _ h =>
    rw [h.receiver.isTerminal_eq] at hr
    cases hr
  | replied _ _ h =>
    rw [h.receiver.isOpen] at hr
    cases hr
  | ended h => exact h

/-- **A transfer comes to its end under every interleaving.** Whatever the settings of both sides, the task,
the network and the user: each step leaves less to happen, and there is a step until both sides have ended
as they have to. -/
theorem ends (hplan : plan.Works) (hnew : table.find? plan.task.id = none)
    (hrun : Relation.ReflTransGen plan.Move (plan.start table) w) :
    (∀ w', plan.Step w w' → w'.remaining < w.remaining) ∧
    (plan.IsOver w ∨ ∃ w', plan.Step w w') ∧
    (w.sender.stage.isTerminal = true → w.receiver.stage.isTerminal = true → plan.IsOver w) := by
  have hphase := phase_of_run hplan hnew hrun
  refine ⟨fun w' hstep => (hphase.step hplan hstep).2, ?_, fun hs hr => (hphase.ended_of_isTerminal hs hr).isOver⟩
  obtain hended | hstep := hphase.exists_step hplan
  · exact .inl hended.isOver
  · exact .inr hstep

/-! ### A transfer of a file -/

/-- Every phase leads to one after which nothing can happen. -/
lemma exists_last (hplan : plan.Works) (h : Phase plan w) :
    ∃ w', Relation.ReflTransGen plan.Move w w' ∧ ∀ w'', ¬plan.Step w' w'' := by
  -- each step leaves less to happen
  induction hn : w.remaining using Nat.strong_induction_on generalizing w with
  | _ n ih =>
    by_cases hlast : ∃ w', plan.Step w w'
    · obtain ⟨w', hstep⟩ := hlast
      obtain ⟨hphase, hless⟩ := h.step hplan hstep
      obtain ⟨last, hrun, hstuck⟩ := ih _ (hn ▸ hless) hphase rfl
      exact ⟨last, .head (.step w w' hstep) hrun, hstuck⟩
    · exact ⟨w, .refl, fun w' hstep => hlast ⟨w', hstep⟩⟩

/-- Primitives that take sums for shared keys. -/
def sumTools : Tools where
  provider := { Provider.ideal [] with decrypt := fun _ _ _ ciphertext => .ok ciphertext }
  suite :=
    { publicKey := fun k => k.secret
      agree := fun k peer =>
        some ⟨fun block => block ^^^ BitVec.ofNat 128 (Bytes.toNatBE (Bytes.xor k.secret peer))⟩ }
  random := Set.univ

/-- These primitives work. -/
lemma sumTools_work : sumTools.Work where
  cooperates := ⟨(cooperates_ideal []).agrees, (cooperates_ideal []).encrypts⟩
  opens := by
    rintro key nonce header plaintext ciphertext hsealed
    cases hsealed
    rfl
  draws := ⟨[], trivial⟩
  generates random _ := ⟨_, rfl⟩
  fits a _ b _ := Invitation.fits_sumSuite ⟨a⟩ ⟨b⟩

/-- A file for a receiver that takes it without asking its user. Both sides want encryption. -/
def filePlan : Plan where
  sender := { deviceName := "left" }
  receiver := { deviceName := "right" }
  id := "s"
  task := { id := "t", files := [.ofBytes "a" "text/plain" [1]] }
  network := .plain "ssid" "psk" "mac" 8443
  port := 8443
  host := "host"
  accept := true
  tools := sumTools

/-- The plan for a file works. -/
lemma filePlan_works : filePlan.Works where
  named := by decide
  sized := by decide
  port := by decide
  unsealed _ := rfl
  tools := sumTools_work

/-- The transfer of a file whose run has come to its last step. -/
theorem ends_file : ∃ w, Relation.ReflTransGen filePlan.Move (filePlan.start { grace := 0, lifetime := 0 }) w ∧
    (∀ w', ¬filePlan.Step w w') ∧ w.senderResults = [.ok "t"] ∧ w.receiverResults = [.ok "t"] ∧
    w.table.state? "t" = some (.ended .completed) ∧ w.grants = [⟨"t", [.ofBytes "a" "text/plain" [1]]⟩] := by
  have hstart : Meeting filePlan none (filePlan.start { grace := 0, lifetime := 0 }) := meeting_start rfl
  obtain ⟨w, hrun, hlast⟩ := exists_last filePlan_works (.meeting none hstart)
  have hends := ends filePlan_works rfl hrun
  have hover : filePlan.IsOver w := hends.2.1.resolve_right fun ⟨w', hstep⟩ => hlast w' hstep
  have hfailure : filePlan.failure? = none := by decide
  have hresult : ∀ result, filePlan.Ends result → result = .ok "t" := by
    intro result hends
    cases result with
    | ok id => exact congrArg _ hends
    | error e => exact absurd hends (by simp [Plan.Ends, hfailure])
  obtain ⟨result, hsender, hok⟩ := hover.sender
  obtain ⟨result', hreceiver, hok'⟩ := hover.receiver
  rw [hresult _ hok] at hsender
  rw [hresult _ hok'] at hreceiver
  exact ⟨w, hrun, hlast, hsender, hreceiver, hover.table, hover.grants⟩

end DirectShare.Transfer
