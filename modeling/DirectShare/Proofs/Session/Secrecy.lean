import Mathlib
import DirectShare.Proofs.Session.Agreement

/-!
# Secrecy

A sender and a receiver that are given arbitrary frames. Nobody but the two sides knows their keys, so that
nothing opens under them but what one of them has sealed. Once a side has agreed on encryption, it sends
nothing readable any more and fails when it is given something readable; what it does goes back to what
the other side has sealed.

`Net.Attack` is one event with any frame, and `Net.Secure` is what holds of both sides whatever they are
given: once it has agreed on encryption a side has only sent what is `IsOpaque`, and what it does goes back to
what the other side has sealed. `Net.Secure.attack` keeps it, by the rules of each side.
`Net.progress_authenticated` traces what a side does back to what the other one has sealed (`Net.Announces`,
`Net.HasSealedReport`).
-/

namespace DirectShare

/-! ### Frames -/

/-- The bytes are a frame without a body, or with a sealed one. -/
def IsOpaque (bytes : Bytes) : Prop :=
  ∃ f, Frame.decode bytes = .ok f ∧ (f.payload = .empty ∨ ∃ ciphertext, f.payload = .sealed ciphertext)

/-- The bytes are a frame with a readable body. -/
def IsPlain (bytes : Bytes) : Prop := ∃ f body, Frame.decode bytes = .ok f ∧ f.payload = .json body

namespace Channel

variable {p : Provider} {ch ch' : Channel} {sequence : UInt32} {action : Action} {bytes : Bytes}

/-- A channel with a key sends opaque actions. -/
lemma isOpaque_sendAction {b : Json} (hk : ch.IsKeyed) (ha : action ≠ .versionNegotiation)
    (h : sendAction p action (some b) ch = .ok bytes ch') : IsOpaque bytes := by
  obtain ⟨payload, ch'', -, -, hseal, rfl, -⟩ := sendAction_ok h
  obtain ⟨hb, -⟩ | ⟨b', -, -, -, hplain⟩ | ⟨b', c, key, ciphertext, -, -, -, -, -, -, rfl, -⟩ := sealBody_ok hseal
  · cases hb
  · exact absurd hplain (not_or.2 ⟨hk.established?_ne_none, ha⟩)
  · exact ⟨⟨.action, ch.nextSequence, action, .sealed ciphertext⟩, Frame.decode_encode trivial, .inr ⟨_, rfl⟩⟩

/-- An acknowledgement without a body is opaque. -/
lemma isOpaque_sendAck (h : sendAck p sequence action none ch = .ok bytes ch') : IsOpaque bytes := by
  obtain ⟨payload, hseal, rfl⟩ := sendAck_ok h
  cases hseal
  exact ⟨⟨.ack, sequence, action, .empty⟩, Frame.decode_encode_empty _ _ _, .inl rfl⟩

/-- Where there is a key, a readable body is only taken for a version negotiation. -/
lemma version_of_receive {inbound : Inbound} (hk : ch.IsKeyed) (hplain : IsPlain bytes)
    (h : receive p bytes ch = .ok inbound ch') :
    (∃ body, inbound = .ack .versionNegotiation body) ∨
      ∃ sequence body, inbound = .action sequence .versionNegotiation body := by
  obtain ⟨f, b, hdecode, hpayload⟩ := hplain
  obtain ⟨f', body, ch'', hdecode', hopen, hinbound⟩ := receive_ok h
  rw [hdecode] at hdecode'
  cases hdecode'
  have haction : f.action = .versionNegotiation := by
    obtain ⟨hempty, -⟩ | ⟨b', -, -, -, hplain⟩ | ⟨ciphertext, c, key, plaintext, b', hsealed, -⟩ := openBody_ok hopen
    · rw [hpayload] at hempty
      cases hempty
    · exact hplain.resolve_left hk.established?_ne_none
    · rw [hpayload] at hsealed
      cases hsealed
  rw [haction] at hinbound
  obtain ⟨-, -, hack, -⟩ | ⟨-, -, haction, -⟩ := hinbound
  · exact .inl ⟨body, hack⟩
  · exact .inr ⟨f.sequence, body, haction⟩

end Channel

/-! ### What is said after encryption was agreed on -/

section Guarded

variable {ι : Type} {enabled : UInt32 → ι} {send : Bytes → ι} {said intents : List ι} {ch ch' : Channel}
  {isOpen agreed isOpen' agreed' : Prop}

/-- Nothing readable is sent after encryption was agreed on. -/
def Conceals (enabled : UInt32 → ι) (send : Bytes → ι) (said : List ι) : Prop :=
  said.Pairwise fun i i' => ∀ version bytes, i = enabled version → i' = send bytes → IsOpaque bytes

/-- What holds of a side and of what it has said: once it has agreed on encryption it has a key until it ends,
and sends nothing readable. -/
structure Guarded (enabled : UInt32 → ι) (send : Bytes → ι) (isOpen agreed : Prop) (ch : Channel)
    (said : List ι) : Prop where
  keyed : isOpen → ∀ version, enabled version ∈ said → agreed ∧ ch.IsKeyed
  conceals : Conceals enabled send said

/-- A side stays guarded when what it says next conceals, and it has a key whenever it has agreed. -/
lemma Guarded.append (h : Guarded enabled send isOpen agreed ch said)
    (hkeyed : isOpen' → ∀ version, enabled version ∈ said ∨ enabled version ∈ intents → agreed' ∧ ch'.IsKeyed)
    (hintents : Conceals enabled send intents)
    (hsends : ∀ version, enabled version ∈ said → ∀ bytes, send bytes ∈ intents → IsOpaque bytes) :
    Guarded enabled send isOpen' agreed' ch' (said ++ intents) := by
  refine ⟨fun hopen version hmem => hkeyed hopen version (List.mem_append.1 hmem),
    List.pairwise_append.2 ⟨h.conceals, hintents, ?_⟩⟩
  rintro i hi i' hi' version bytes rfl rfl
  exact hsends version hi bytes hi'

/-- A side that has not agreed and does not agree now stays guarded. -/
lemma Guarded.early (h : Guarded enabled send isOpen agreed ch said) (hopen : isOpen) (hearly : ¬agreed)
    (hquiet : ∀ version, enabled version ∉ intents) :
    Guarded enabled send isOpen' agreed' ch' (said ++ intents) := by
  have hnone : ∀ version, enabled version ∉ said ++ intents := by
    intro version hmem
    obtain hold | hnew := List.mem_append.1 hmem
    · exact hearly (h.keyed hopen version hold).1
    · exact hquiet version hnew
  refine ⟨fun _ version hmem => absurd hmem (hnone version), List.pairwise_of_forall_mem_list ?_⟩
  rintro i hi i' - version bytes rfl -
  exact absurd hi (hnone version)

/-- A side that agrees on encryption in this turn stays guarded. -/
lemma Guarded.first (h : Guarded enabled send isOpen agreed ch said) (hopen : isOpen) (hearly : ¬agreed)
    (hkeyed : isOpen' → ∀ version, enabled version ∈ intents → agreed' ∧ ch'.IsKeyed)
    (hintents : Conceals enabled send intents) :
    Guarded enabled send isOpen' agreed' ch' (said ++ intents) := by
  have hnone : ∀ version, enabled version ∉ said := fun version hmem => hearly (h.keyed hopen version hmem).1
  exact h.append (fun hopen' version hmem => hkeyed hopen' version (hmem.resolve_left (hnone version))) hintents
    fun version hmem => absurd hmem (hnone version)

/-- A side that keeps its key, and sends nothing readable under it, stays guarded. -/
lemma Guarded.later (h : Guarded enabled send isOpen agreed ch said) (hopen : isOpen)
    (hkeyed : isOpen' → ch.IsKeyed → agreed' ∧ ch'.IsKeyed) (hquiet : ∀ version, enabled version ∉ intents)
    (hsends : ch.IsKeyed → ∀ bytes, send bytes ∈ intents → IsOpaque bytes) :
    Guarded enabled send isOpen' agreed' ch' (said ++ intents) := by
  refine h.append (fun hopen' version hmem => ?_) (List.pairwise_of_forall_mem_list ?_)
    fun version hmem => hsends (h.keyed hopen version hmem).2
  · exact hkeyed hopen' (h.keyed hopen version (hmem.resolve_right (hquiet version))).2
  · rintro i hi i' - version bytes rfl -
    exact absurd hi (hquiet version)

end Guarded

/-! ### Senders -/

namespace Sender

variable {env : Surroundings} {s : Sender} {table : TaskTable} {event : Event} {said : List Intent}

/-- The sender has agreed on a version, and has not ended. -/
def Stage.IsAgreed : Stage → Prop
  | .requestSent | .requestAcked | .serving => True
  | _ => False

/-- What holds of a sender and of what it has said. -/
def Guards (s : Sender) (said : List Intent) : Prop :=
  Guarded (.negotiated · .enabled) .send (s.stage.isTerminal = false) s.stage.IsAgreed s.channel said

/-- A sender that has agreed on encryption fails when it is given something readable. -/
lemma fails_of_plain (env : Surroundings) (table : TaskTable) (hopen : s.stage.isTerminal = false)
    (hs : s.stage.IsAgreed) (hk : s.channel.IsKeyed) {bytes : Bytes} (hplain : IsPlain bytes) :
    ∃ e, (s.handle env (.frame bytes) table).session.stage = .failed e := by
  have hturn := handle_answers env table hopen (.frame bytes)
  have hversion : ∀ inbound channel, Channel.receive env.provider bytes s.channel = .ok inbound channel →
      (∃ body, inbound = .ack .versionNegotiation body) ∨
        ∃ sequence body, inbound = .action sequence .versionNegotiation body :=
    fun _ _ => Channel.version_of_receive hk hplain
  generalize s.handle env (.frame bytes) table = t at hturn
  cases hturn with
  | announced hconnected =>
    rw [hconnected] at hs
    exact hs.elim
  | authorized _ hreceive => simpa using hversion _ _ hreceive
  | completed _ hreceive => simpa using hversion _ _ hreceive
  | unannounced => exact ⟨_, rfl⟩
  | reported => exact ⟨_, rfl⟩
  | failed => exact ⟨_, rfl⟩

/-- An event keeps a sender guarded. -/
lemma Guards.answers {t : Turn} (h : s.Guards said) (hs : s.stage.isTerminal = false)
    (hturn : Answers env s table event t) : t.session.Guards (said ++ t.intents) := by
  cases hturn with
  | began hidle => exact h.early hs (by simp [hidle, Stage.IsAgreed]) (by simp)
  | crashed hidle => exact h.early hs (by simp [hidle, Stage.IsAgreed]) (by simp)
  | described hadvertising => exact h.early hs (by simp [hadvertising, Stage.IsAgreed]) (by simp)
  | awaits hadvertising => exact h.early hs (by simp [hadvertising, Stage.IsAgreed]) (by simp)
  | joined hwritten => exact h.early hs (by simp [hwritten, Stage.IsAgreed]) (by simp)
  | offered hjoined => exact h.early hs (by simp [hjoined, Stage.IsAgreed]) (by simp)
  | announced hconnected hreceive hread hhere hthere hsettle hjob hannounce =>
    refine h.first hs (by simp [hconnected, Stage.IsAgreed]) (fun _ version hmem => ⟨trivial, ?_⟩) ?_
    · obtain ⟨-, hmode⟩ : _ ∧ EncryptionMode.enabled = _ := by simpa using hmem
      exact (isKeyed_settle hmode.symm hsettle).sendAction hannounce
    · -- the announcement follows what was agreed on
      refine List.pairwise_pair.2 ?_
      rintro version bytes hmode ⟨⟩
      obtain ⟨-, hmode⟩ := Intent.negotiated.inj hmode
      exact Channel.isOpaque_sendAction (isKeyed_settle hmode hsettle) (by simp) hannounce
  | unannounced channel hconnected =>
    exact h.first hs (by simp [hconnected, Stage.IsAgreed]) (fun hopen => by cases hopen) (by simp [Conceals, fail])
  | authorized hsent hreceive =>
    exact h.later hs (fun _ hk => ⟨trivial, hk.receive hreceive⟩) (by simp) (by simp)
  | serves hacked => exact h.later hs (fun _ hk => ⟨trivial, hk⟩) (by simp) (by simp)
  | completed hstage hreceive hread hjob htask hack =>
    exact h.later hs (fun hopen => by cases hopen) (by simp) (by simpa using fun _ => Channel.isOpaque_sendAck hack)
  | reported hstage hreceive hread hjob htask hack =>
    exact h.later hs (fun hopen => by cases hopen) (by simp [fail])
      (by simpa [fail] using fun _ => Channel.isOpaque_sendAck hack)
  | failed => exact h.later hs (fun hopen => by cases hopen) (by simp [fail]) (by simp [fail])
  | gaveUp => exact h.later hs (fun hopen => by cases hopen) (by simp [giveUp]) (by simp [giveUp])

end Sender

/-! ### Receivers -/

namespace Receiver

variable {env : Surroundings} {r : Receiver} {event : Event} {said : List Intent}

/-- What holds of a receiver and of what it has said. -/
def Guards (r : Receiver) (said : List Intent) : Prop :=
  Guarded (.negotiated · .enabled) .send (r.stage.isTerminal = false) (¬r.stage.IsEarly) r.channel said

/-- A receiver that has agreed on encryption fails when it is given something readable. -/
lemma fails_of_plain (env : Surroundings) (hopen : r.stage.isTerminal = false) (hr : ¬r.stage.IsEarly)
    (hk : r.channel.IsKeyed) {bytes : Bytes} (hplain : IsPlain bytes) :
    ∃ e, (r.handle env (.frame bytes)).session.stage = .failed e := by
  have hturn := handle_answers env hopen (.frame bytes)
  have hversion : ∀ inbound channel, Channel.receive env.provider bytes r.channel = .ok inbound channel →
      (∃ body, inbound = .ack .versionNegotiation body) ∨
        ∃ sequence body, inbound = .action sequence .versionNegotiation body :=
    fun _ _ => Channel.version_of_receive hk hplain
  generalize r.handle env (.frame bytes) = t at hturn
  cases hturn with
  | negotiated hconnected =>
    rw [hconnected] at hr
    exact absurd trivial hr
  | downloads _ hreceive => simpa using hversion _ _ hreceive
  | asks _ hreceive => simpa using hversion _ _ hreceive
  | shows _ hreceive => simpa using hversion _ _ hreceive
  | completed hreceive => simpa using hversion _ _ hreceive
  | declined => exact ⟨_, rfl⟩
  | unreported => exact ⟨_, rfl⟩
  | failed => exact ⟨_, rfl⟩

/-- An event keeps a receiver guarded. -/
lemma Guards.answers {t : Turn} (h : r.Guards said) (hr : r.stage.isTerminal = false)
    (hturn : Answers env r event t) : t.session.Guards (said ++ t.intents) := by
  have hearly : ∀ {stage : Stage}, r.stage = stage → stage.IsEarly → ¬¬r.stage.IsEarly := by
    rintro stage rfl hstage hnot
    exact hnot hstage
  cases hturn with
  | published hidle => exact h.early hr (hearly hidle trivial) (by simp)
  | joins hadvertised => exact h.early hr (hearly hadvertised trivial) (by simp)
  | connects hreceived => exact h.early hr (hearly hreceived trivial) (by simp)
  | connected hjoined => exact h.early hr (hearly hjoined trivial) (by simp)
  | negotiated hconnected hreceive hread hversion hagree hack =>
    refine h.first hr (hearly hconnected trivial) (fun _ version hmem => ⟨id, ?_⟩)
      (List.pairwise_pair.2 (by simp))
    obtain ⟨-, hmode⟩ : _ ∧ EncryptionMode.enabled = _ := by simpa using hmem
    exact (isKeyed_agreement hmode.symm hagree).sendAck hack
  | declined hconnected => exact h.early hr (hearly hconnected trivial) (by simp [fail])
  | downloads hnegotiated hreceive hread htask hack =>
    exact h.later hr (fun _ hk => ⟨id, (hk.receive hreceive).sendAck hack⟩) (by simp)
      (by simpa using fun _ => Channel.isOpaque_sendAck hack)
  | asks hnegotiated hreceive hread htask hack =>
    exact h.later hr (fun _ hk => ⟨id, (hk.receive hreceive).sendAck hack⟩) (by simp)
      (by simpa using fun _ => Channel.isOpaque_sendAck hack)
  | shows hnegotiated hreceive hread htask hack htext hsend =>
    refine h.later hr (fun _ hk => ⟨id, ((hk.receive hreceive).sendAck hack).sendAction hsend⟩) (by simp) ?_
    intro hk bytes hmem
    obtain rfl | rfl : bytes = _ ∨ bytes = _ := by simpa using hmem
    · exact Channel.isOpaque_sendAck hack
    · exact Channel.isOpaque_sendAction ((hk.receive hreceive).sendAck hack) (by simp) hsend
  | unreported channel hnegotiated hreceive hread htask hack =>
    exact h.later hr (fun hopen => by cases hopen) (by simp [fail])
      (by simpa [fail] using fun _ => Channel.isOpaque_sendAck hack)
  | accepts => exact h.later hr (fun _ hk => ⟨id, hk⟩) (by simp) (by simp)
  | refuses hrequested hawaiting htask hsend =>
    refine h.later hr (fun _ hk => ⟨by rw [hrequested]; exact id, hk.sendAction hsend⟩) (by simp) ?_
    intro hk bytes hmem
    obtain rfl : bytes = _ := by simpa using hmem
    exact Channel.isOpaque_sendAction hk (by simp) hsend
  | downloaded hdownloading hreported hrequest hfault htask hsend =>
    refine h.later hr (fun _ hk => ⟨by rw [hdownloading]; exact id, hk.sendAction hsend⟩) (by simp) ?_
    intro hk bytes hmem
    obtain rfl : bytes = _ := by simpa using hmem
    exact Channel.isOpaque_sendAction hk (by simp) hsend
  | spoiled hdownloading hreported hrequest hfault htask hsend =>
    refine h.later hr (fun hopen => by cases hopen) (by simp [fail]) ?_
    intro hk bytes hmem
    obtain rfl : bytes = _ := by simpa [fail] using hmem
    exact Channel.isOpaque_sendAction hk (by simp) hsend
  | completed => exact h.later hr (fun hopen => by cases hopen) (by simp) (by simp)
  | failed => exact h.later hr (fun hopen => by cases hopen) (by simp [fail]) (by simp [fail])

end Receiver

/-! ### What holds of both sides, whatever they are given -/

namespace Net

variable {n n' : Net} {env : Surroundings}

/-- A side has the key. -/
def Holds (n : Net) (key : SharedKey) : Prop :=
  ∃ c, (n.sender.channel.crypto = some c ∨ n.receiver.channel.crypto = some c) ∧ c.key = some key

/-- Nobody but the two sides knows their keys: nothing opens under them but what one of the two has sealed. -/
def Trusts (n : Net) (env : Surroundings) : Prop := ∀ key, n.Holds key → env.provider.OpensOnly key n.log

/-- One event. Each side may be given any frame at any moment; the frames on their way and the table of tasks
may be changed at will. -/
inductive Attack : Net → Net → Prop
  /-- Something happens to the sender. -/
  | sender (n : Net) (env : Surroundings) (event : Sender.Event) : n.Trusts env →
      Attack n (n.senderDoes env event)
  /-- Something happens to the receiver. -/
  | receiver (n : Net) (env : Surroundings) (event : Receiver.Event) : n.Trusts env →
      Attack n (n.receiverDoes env event)
  /-- Something happens between them. -/
  | meddles (n : Net) (table : TaskTable) (toReceiver toSender : List Bytes) :
      Attack n { n with table, toReceiver, toSender }

/-- The sender has sealed an announcement of what it works on. -/
def Announces (n : Net) (request : SendRequest) : Prop :=
  ∃ j, n.sender.job = some j ∧ j.request = request ∧ ∃ x ∈ n.log, x.IsAnnouncement request

/-- The receiver has sealed a report, and has sent it. -/
def HasSealedReport (n : Net) (id : String) (outcome : Outcome) : Prop :=
  ∃ x ∈ n.log, ∃ sequence, x.IsReport sequence id outcome ∧
    .send (Frame.encode ⟨.action, sequence, .status, .sealed x.ciphertext⟩) ∈ n.receiverSaid

/-- The sender has ended as the receiver has reported. -/
def Concludes (n : Net) (ended : Except Failure String) (outcome : Outcome) : Prop :=
  ∃ j, n.sender.job = some j ∧ (∀ id, ended = .ok id → id = j.taskId) ∧ n.HasSealedReport j.taskId outcome

/-- What holds of both sides, whatever they are given. -/
structure Secure (n : Net) : Prop where
  sender : n.sender.Coherent
  receiver : n.receiver.Coherent
  senderGuards : n.sender.Guards n.senderSaid
  receiverGuards : n.receiver.Guards n.receiverSaid
  /-- Announcements and reports are all that is sealed. -/
  log : ∀ x ∈ n.log, (∃ j, n.sender.job = some j ∧ x.IsAnnouncement j.request) ∨
    ∃ sequence id outcome, x.IsReport sequence id outcome ∧
      .send (Frame.encode ⟨.action, sequence, .status, .sealed x.ciphertext⟩) ∈ n.receiverSaid
  /-- A sender that has not ended has not said so. -/
  unfinished : n.sender.stage.isTerminal = false → ∀ ended, .finished ended ∉ n.senderSaid
  concludes : ∀ version, .negotiated version .enabled ∈ n.senderSaid → ∀ ended outcome,
    .finished ended ∈ n.senderSaid → Sender.resultOutcome? ended = some outcome → n.Concludes ended outcome
  /-- Before its handshake a receiver knows of no announcement. -/
  early : n.receiver.stage.IsEarly → n.receiver.request = none ∧
    ∀ i ∈ n.receiverSaid, i.Follows fun _ => False
  follows : ∀ version, .negotiated version .enabled ∈ n.receiverSaid →
    (∀ i ∈ n.receiverSaid, i.Follows n.Announces) ∧
      ∀ request, n.receiver.request = some request → n.Announces request

/-- Two sides that have said nothing are secure. -/
lemma secure_start (S R : Settings) (id : String) (table : TaskTable) : (start S R id table).Secure where
  sender := Sender.coherent_start S id
  receiver := Receiver.coherent_start R
  senderGuards := ⟨fun _ _ hmem => absurd hmem List.not_mem_nil, .nil⟩
  receiverGuards := ⟨fun _ _ hmem => absurd hmem List.not_mem_nil, .nil⟩
  log _ hx := absurd hx (Set.notMem_empty _)
  unfinished _ _ := List.not_mem_nil
  concludes _ hmem := absurd hmem List.not_mem_nil
  early _ := ⟨rfl, fun _ hi => absurd hi List.not_mem_nil⟩
  follows _ hmem := absurd hmem List.not_mem_nil

/-- The sender has announced what it had announced before. -/
lemma Announces.mono {request : SendRequest} (h : n.Announces request)
    (hjob : ∀ j, n.sender.job = some j → n'.sender.job = some j) (hlog : n.log ⊆ n'.log) :
    n'.Announces request := by
  obtain ⟨j, hj, hrequest, x, hx, hannounces⟩ := h
  exact ⟨j, hjob j hj, hrequest, x, hlog hx, hannounces⟩

/-- The receiver has sealed and sent the reports that it had sealed and sent before. -/
lemma HasSealedReport.mono {id : String} {outcome : Outcome} (h : n.HasSealedReport id outcome)
    (hlog : n.log ⊆ n'.log) (hsaid : n.receiverSaid ⊆ n'.receiverSaid) : n'.HasSealedReport id outcome := by
  obtain ⟨x, hx, sequence, hreport, hsent⟩ := h
  exact ⟨x, hlog hx, sequence, hreport, hsaid hsent⟩

/-- The status that a sender with a key takes is a report that the receiver has sealed. -/
lemma Secure.hasSealedReport_of_receive (h : n.Secure) (htrusts : n.Trusts env)
    (hk : n.sender.channel.IsKeyed) {bytes : Bytes} {sequence : UInt32} {body : Option Json}
    {report : StatusReport} {channel : Channel} {id : String}
    (hreceive : Channel.receive env.provider bytes n.sender.channel = .ok (.action sequence .status body) channel)
    (hread : Channel.readBody .status body = .ok report) (htask : report.task?.filter (· ≠ id) = none) :
    n.HasSealedReport id report.outcome := by
  cases body with
  | none => cases hread
  | some b =>
    obtain ⟨-, hplain⟩ | ⟨c, key, header, ciphertext, plaintext, hc, hkey, -, hdecrypt, hparse⟩ :=
      Channel.body_of_receive hreceive
    · exact absurd hplain (not_or.2 ⟨hk.established?_ne_none, nofun⟩)
    have hlogged := htrusts key ⟨c, .inl hc, hkey⟩ _ _ _ _ hdecrypt
    rw [h.sender.role c hc] at hlogged
    obtain ⟨j, -, hannounces⟩ | ⟨sequence', id', outcome, hreport, hsent⟩ := h.log _ hlogged
    · obtain ⟨sequence', counter, hnonce⟩ := hannounces.nonce_eq
      obtain ⟨hside, -, -⟩ := CryptoContext.nonce_injective hnonce
      cases hside
    · obtain ⟨reason, hbody⟩ := hreport.parseBytes_eq
      rw [show Json.parseBytes plaintext = some b from hparse] at hbody
      cases hbody
      obtain ⟨hid', rfl⟩ := eq_of_readBody_report hread
      obtain rfl : id' = id := by simpa [hid'] using htask
      exact ⟨_, hlogged, sequence', hreport, hsent⟩

/-- The announcement that a receiver with a key takes is one that the sender has sealed. -/
lemma Secure.announces_of_receive (h : n.Secure) (htrusts : n.Trusts env)
    (hk : n.receiver.channel.IsKeyed) {bytes : Bytes} {sequence : UInt32} {body : Option Json}
    {request : SendRequest} {channel : Channel}
    (hreceive : Channel.receive env.provider bytes n.receiver.channel =
      .ok (.action sequence .sendRequest body) channel)
    (hread : Channel.readBody .sendRequest body = .ok request) : n.Announces request := by
  cases body with
  | none => cases hread
  | some b =>
    obtain ⟨-, hplain⟩ | ⟨c, key, header, ciphertext, plaintext, hc, hkey, -, hdecrypt, hparse⟩ :=
      Channel.body_of_receive hreceive
    · exact absurd hplain (not_or.2 ⟨hk.established?_ne_none, nofun⟩)
    have hlogged := htrusts key ⟨c, .inr hc, hkey⟩ _ _ _ _ hdecrypt
    rw [h.receiver.role c hc] at hlogged
    obtain ⟨j, hj, hannounces⟩ | ⟨sequence', id, outcome, hreport, -⟩ := h.log _ hlogged
    · have hbody := hannounces.parseBytes_eq
      rw [show Json.parseBytes plaintext = some b from hparse] at hbody
      cases hbody
      rw [Exchange.readBody_announcement] at hread
      cases hread
      exact ⟨j, hj, rfl, _, hlogged, hannounces⟩
    · obtain ⟨counter, hnonce⟩ := hreport.nonce_eq
      obtain ⟨hside, -, -⟩ := CryptoContext.nonce_injective hnonce
      cases hside

/-- An event of the sender keeps both sides secure. -/
lemma Secure.senderDoes (h : n.Secure) (htrusts : n.Trusts env) (event : Sender.Event) :
    (n.senderDoes env event).Secure := by
  cases hs : n.sender.stage.isTerminal with
  | true =>
    rw [senderDoes_of_isTerminal hs]
    exact h
  | false =>
    have hturn := Sender.handle_answers env n.table hs event
    have hjob : ∀ j, n.sender.job = some j → (n.senderDoes env event).sender.job = some j :=
      fun j => h.sender.job_handle
    have hlog : n.log ⊆ (n.senderDoes env event).log := Set.subset_union_left
    refine ⟨h.sender.handle, h.receiver, h.senderGuards.answers hs hturn, h.receiverGuards, ?_, ?_, ?_, h.early, ?_⟩
    · rintro x (hx | hx)
      · obtain ⟨j, hj, hannounces⟩ | hreport := h.log x hx
        · exact .inl ⟨j, hjob j hj, hannounces⟩
        · exact .inr hreport
      · obtain ⟨j, hj, hannounces⟩ := Sender.isAnnouncement_of_makes h.sender.role hx
        exact .inl ⟨j, hjob j hj, hannounces⟩
    · intro hopen ended hmem
      obtain hold | hnew := List.mem_append.1 hmem
      · exact h.unfinished hs ended hold
      · exact Sender.not_finished_of_answers hturn hopen ended hnew
    · intro version hmode ended outcome hmem houtcome
      have hnew := (List.mem_append.1 hmem).resolve_left (h.unfinished hs ended)
      obtain ⟨bytes, sequence, body, channel, report, j, rfl, hreceive, hread, hj, hj', -, htask, rfl, hid, hsilent⟩ :=
        Sender.report_of_finished hturn hnew houtcome
      have hagreed := (List.mem_append.1 hmode).resolve_right (hsilent version .enabled)
      have hkeyed := (h.senderGuards.keyed hs version hagreed).2
      have hreport := h.hasSealedReport_of_receive htrusts hkeyed hreceive hread htask
      exact ⟨j, hj', hid, hreport.mono hlog fun _ hi => hi⟩
    · intro version hmode
      obtain ⟨hsaid, hrequest⟩ := h.follows version hmode
      exact ⟨fun i hi => (hsaid i hi).mono fun request hannounces => hannounces.mono hjob hlog,
        fun request hgot => (hrequest request hgot).mono hjob hlog⟩

/-- An event of the receiver keeps both sides secure. -/
lemma Secure.receiverDoes (h : n.Secure) (htrusts : n.Trusts env) (event : Receiver.Event) :
    (n.receiverDoes env event).Secure := by
  cases hr : n.receiver.stage.isTerminal with
  | true =>
    rw [receiverDoes_of_isTerminal hr]
    exact h
  | false =>
    have hturn := Receiver.handle_answers env hr event
    -- what is logged or said stays so, and the four clauses on the past with it
    have hlog : n.log ⊆ (n.receiverDoes env event).log := Set.subset_union_left
    have hsaid : n.receiverSaid ⊆ (n.receiverDoes env event).receiverSaid := List.subset_append_left _ _
    have hannounces : ∀ request, n.Announces request → (n.receiverDoes env event).Announces request :=
      fun request hold => hold.mono (fun _ hj => hj) hlog
    refine ⟨h.sender, h.receiver.handle, h.senderGuards, h.receiverGuards.answers hr hturn, ?_, h.unfinished,
      ?_, fun hearly => ?_, fun version hmode => ?_⟩
    · rintro x (hx | hx)
      · obtain hannounced | ⟨sequence, id, outcome, hreport, hsent⟩ := h.log x hx
        · exact .inl hannounced
        · exact .inr ⟨sequence, id, outcome, hreport, hsaid hsent⟩
      · obtain ⟨sequence, id, outcome, hreport, -, hsent⟩ := Receiver.isReport_of_makes h.receiver.role hx
        exact .inr ⟨sequence, id, outcome, hreport, List.mem_append_right _ hsent⟩
    · intro version hmode ended outcome hmem houtcome
      obtain ⟨j, hj, hid, hreport⟩ := h.concludes version hmode ended outcome hmem houtcome
      exact ⟨j, hj, hid, hreport.mono hlog hsaid⟩
    · have hbefore := Receiver.early_of_answers hturn hearly
      obtain ⟨hnone, hquiet⟩ := h.early hbefore
      obtain ⟨hnone', hquiet'⟩ := Receiver.quiet_of_early hturn hbefore hnone
      refine ⟨hnone', fun i hi => ?_⟩
      obtain hold | hnew := List.mem_append.1 hi
      · exact hquiet i hold
      · exact hquiet' i hnew
    · obtain hold | hnew := List.mem_append.1 hmode
      · -- what the receiver knows of, it knows from the sender
        obtain ⟨hfollows, hrequest⟩ := h.follows version hold
        have hkeyed := (h.receiverGuards.keyed hr version hold).2
        obtain ⟨hfollows', hrequest'⟩ := Receiver.follows hturn hrequest
          fun bytes sequence body request channel _ _ hreceive hread =>
            h.announces_of_receive htrusts hkeyed hreceive hread
        refine ⟨fun i hi => ?_, fun request hgot => hannounces request (hrequest' request hgot)⟩
        obtain hi | hi := List.mem_append.1 hi
        · exact (hfollows i hi).mono hannounces
        · exact (hfollows' i hi).mono hannounces
      · -- up to now it has known of nothing
        have hbefore := Receiver.early_of_negotiated hturn hnew
        obtain ⟨hnone, hquiet⟩ := h.early hbefore
        obtain ⟨hnone', hquiet'⟩ := Receiver.quiet_of_early hturn hbefore hnone
        refine ⟨fun i hi => ?_, fun request hgot => ?_⟩
        · obtain hi | hi := List.mem_append.1 hi
          · exact (hquiet i hi).mono fun _ => False.elim
          · exact (hquiet' i hi).mono fun _ => False.elim
        · have hgot : (n.receiver.handle env event).session.request = some request := hgot
          rw [hnone'] at hgot
          cases hgot

/-- Every event keeps both sides secure. -/
theorem Secure.attack (h : n.Secure) (hattack : Attack n n') : n'.Secure := by
  cases hattack with
  | sender env event htrusts => exact h.senderDoes htrusts event
  | receiver env event htrusts => exact h.receiverDoes htrusts event
  | meddles table toReceiver toSender =>
    exact {
      sender := h.sender
      receiver := h.receiver
      senderGuards := h.senderGuards
      receiverGuards := h.receiverGuards
      log := h.log
      unfinished := h.unfinished
      concludes := h.concludes
      early := h.early
      follows := h.follows }

/-- **Progress is authenticated, and nothing readable is sent under encryption.** Whatever frames they are
given, both sides send nothing readable after they have agreed on encryption, and fail when they are given
something readable. The receiver asks its user, downloads and shows only what the sender has sealed, and
the sender ends with success, a refusal or an error of the receiver only if the receiver has sealed a
report of that. -/
theorem progress_authenticated {S R : Settings} {id : String} {table : TaskTable}
    (hrun : Relation.ReflTransGen Attack (start S R id table) n) :
    Conceals (.negotiated · .enabled) .send n.senderSaid ∧
    Conceals (.negotiated · .enabled) .send n.receiverSaid ∧
    (∀ version, .negotiated version .enabled ∈ n.senderSaid →
      (n.sender.stage.isTerminal = false → ∀ env bytes table', IsPlain bytes →
        ∃ e, (n.sender.handle env (.frame bytes) table').session.stage = .failed e) ∧
      ∀ ended outcome, .finished ended ∈ n.senderSaid → Sender.resultOutcome? ended = some outcome →
        ∃ j, n.sender.job = some j ∧ (∀ id, ended = .ok id → id = j.taskId) ∧
          n.HasSealedReport j.taskId outcome) ∧
    ∀ version, .negotiated version .enabled ∈ n.receiverSaid →
      (n.receiver.stage.isTerminal = false → ∀ env bytes, IsPlain bytes →
        ∃ e, (n.receiver.handle env (.frame bytes)).session.stage = .failed e) ∧
      ∀ i ∈ n.receiverSaid, i.Follows n.Announces := by
  have hsecure : n.Secure := by
    induction hrun with
    | refl => exact secure_start S R id table
    | tail _ hattack ih => exact ih.attack hattack
  refine ⟨hsecure.senderGuards.conceals, hsecure.receiverGuards.conceals,
    fun version hmode => ⟨fun hopen env bytes table' hplain => ?_, hsecure.concludes version hmode⟩,
    fun version hmode => ⟨fun hopen env bytes hplain => ?_, (hsecure.follows version hmode).1⟩⟩
  · obtain ⟨hagreed, hkeyed⟩ := hsecure.senderGuards.keyed hopen version hmode
    exact Sender.fails_of_plain env table' hopen hagreed hkeyed hplain
  · obtain ⟨hlate, hkeyed⟩ := hsecure.receiverGuards.keyed hopen version hmode
    exact Receiver.fails_of_plain env hopen hlate hkeyed hplain

/-- What two sides do alone is also what they do under attack. -/
lemma attacks_of_talks {task : SharedTask} (h : Talks task n n') : Relation.ReflTransGen Attack n n' := by
  cases h with
  | sender env event henv => exact .single (.sender n env event fun key _ => henv key)
  | receiver env event henv => exact .single (.receiver n env event fun key _ => henv key)
  | toSender env bytes rest henv =>
    exact (Relation.ReflTransGen.single (.meddles n n.table n.toReceiver rest)).tail
      (.sender _ env (.frame bytes) fun key _ => henv key)
  | toReceiver env bytes rest henv =>
    exact (Relation.ReflTransGen.single (.meddles n n.table rest n.toSender)).tail
      (.receiver _ env (.frame bytes) fun key _ => henv key)

/-- A text that was shared under encryption: the receiver has shown what the sender has sealed, and the sender
has ended as the receiver has reported under seal. -/
theorem progress_authenticated_text :
    ∃ n, Relation.ReflTransGen Attack
        (start { deviceName := "left" } { deviceName := "right" } "s" { grace := 0, lifetime := 0 }) n ∧
      .negotiated 1 .enabled ∈ n.senderSaid ∧ .negotiated 1 .enabled ∈ n.receiverSaid ∧
      Conceals (.negotiated · .enabled) .send n.senderSaid ∧
      .textReceived "t" "hello" ∈ n.receiverSaid ∧
      (∃ request, n.Announces request ∧ request.task? = some "t" ∧ request.catShareText = some "hello") ∧
      .finished (.ok "t") ∈ n.senderSaid ∧ n.HasSealedReport "t" .ok := by
  let task : SharedTask := { id := "t", text := some "hello" }
  have hport : (NetworkInfo.plain "ssid" "psk" "mac" 8443).servicePort? = some 8443 := by decide
  obtain ⟨n, htalks, hfinished, -, hshown, hmode, hmode'⟩ :
      ∃ n, Relation.ReflTransGen (Talks task)
          (start { deviceName := "left" } { deviceName := "right" } "s" { grace := 0, lifetime := 0 }) n ∧
        .finished (.ok task.id) ∈ n.senderSaid ∧ _ :=
    exists_text_run _ _ _ (by decide) (by decide) rfl hport rfl rfl rfl
  have hrun : Relation.ReflTransGen Attack
      (start { deviceName := "left" } { deviceName := "right" } "s" { grace := 0, lifetime := 0 }) n := by
    clear hfinished hshown hmode hmode'
    induction htalks with
    | refl => exact .refl
    | tail _ hnext ih => exact ih.trans (attacks_of_talks hnext)
  obtain ⟨hconceals, -, hsender, hreceiver⟩ := progress_authenticated hrun
  obtain ⟨j, -, hid, hreport⟩ := (hsender _ hmode).2 (.ok "t") .ok hfinished rfl
  have hid := hid "t" rfl
  rw [← hid] at hreport
  exact ⟨n, hrun, hmode, hmode', hconceals, hshown, (hreceiver _ hmode').2 _ hshown, hfinished, hreport⟩

end Net

end DirectShare
