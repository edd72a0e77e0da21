import Mathlib
import DirectShare.Proofs.Session.Exchange
import DirectShare.Proofs.Session.Reports

/-!
# Networks

A sender and a receiver with an unreliable network between them, and a table of tasks that others use, too.

`Net` has both sides, the frames between them and the table of tasks, with all that was said so far.
`Net.Step` is one event, and `Net.Talks` one between the two sides alone; `Net.LeadsTo` follows such events,
and keeps the sealings that were made on the way. `Net.exists_text_run` composes a run at whose end a text was
shared, which later modules use as their example.
-/

namespace DirectShare

/-- A sender, a receiver, the frames between them and the table of tasks, with the intents of both sides and
all sealings so far. -/
structure Net where
  sender : Sender
  receiver : Receiver
  table : TaskTable
  /-- The frames on their way to the receiver, in their order. -/
  toReceiver : List Bytes := []
  /-- The frames on their way to the sender, in their order. -/
  toSender : List Bytes := []
  /-- The intents of the sender so far. -/
  senderSaid : List Sender.Intent := []
  /-- The intents of the receiver so far. -/
  receiverSaid : List Receiver.Intent := []
  /-- All sealings so far. -/
  log : Set Sealing := ∅

/-- The frame that an intent sends, if it sends one. -/
def Sender.Intent.frame? : Sender.Intent → Option Bytes
  | .send bytes => some bytes
  | _ => none

/-- The frame that an intent sends, if it sends one. -/
def Receiver.Intent.frame? : Receiver.Intent → Option Bytes
  | .send bytes => some bytes
  | _ => none

namespace Net

/-- What an event makes of the sender goes into the network. -/
def senderDoes (n : Net) (env : Surroundings) (event : Sender.Event) : Net :=
  let t := n.sender.handle env event n.table
  { n with
    sender := t.session
    table := t.table
    toReceiver := n.toReceiver ++ t.intents.filterMap (·.frame?)
    senderSaid := n.senderSaid ++ t.intents
    log := n.log ∪
      {x | env.provider.Makes (fun p => n.sender.handle { env with provider := p } event n.table) x} }

/-- What an event makes of the receiver goes into the network. -/
def receiverDoes (n : Net) (env : Surroundings) (event : Receiver.Event) : Net :=
  let t := n.receiver.handle env event
  { n with
    receiver := t.session
    toSender := n.toSender ++ t.intents.filterMap (·.frame?)
    receiverSaid := n.receiverSaid ++ t.intents
    log := n.log ∪
      {x | env.provider.Makes (fun p => n.receiver.handle { env with provider := p } event) x} }

/-- The provider opens nothing but what was sealed, whatever the key. -/
def Honest (n : Net) (env : Surroundings) : Prop := ∀ key, env.provider.OpensOnly key n.log

/-- One event. The frames arrive in their order and as they were sent, unless they get lost. The rest of
what happens to a side is up to its caller, at any moment. Nobody but the sender and the download service
touches the sender's task in the table. -/
inductive Step : Net → Net → Prop
  /-- Something other than a frame happens to the sender. -/
  | sender (n : Net) (env : Surroundings) (event : Sender.Event) : n.Honest env →
      (∀ bytes, event ≠ .frame bytes) → Step n (n.senderDoes env event)
  /-- Something other than a frame happens to the receiver. -/
  | receiver (n : Net) (env : Surroundings) (event : Receiver.Event) : n.Honest env →
      (∀ bytes, event ≠ .frame bytes) → Step n (n.receiverDoes env event)
  /-- The next frame arrives at the sender. -/
  | toSender (n : Net) (env : Surroundings) (bytes : Bytes) (rest : List Bytes) : n.Honest env →
      n.toSender = bytes :: rest → Step n ({ n with toSender := rest }.senderDoes env (.frame bytes))
  /-- The next frame arrives at the receiver. -/
  | toReceiver (n : Net) (env : Surroundings) (bytes : Bytes) (rest : List Bytes) : n.Honest env →
      n.toReceiver = bytes :: rest →
      Step n ({ n with toReceiver := rest }.receiverDoes env (.frame bytes))
  /-- Frames get lost. -/
  | loses (n : Net) (toReceiver toSender : List Bytes) : toReceiver.Sublist n.toReceiver →
      toSender.Sublist n.toSender → Step n { n with toReceiver, toSender }
  /-- The download service is granted a task. -/
  | grants (n : Net) (id : String) (grant : TaskTable.Grant) (table : TaskTable) :
      n.table.grant id = .ok (grant, table) → Step n { n with table }
  /-- Others use the table of tasks. -/
  | others (n : Net) (table : TaskTable) :
      (∀ j, n.sender.job = some j → table.find? j.taskId = n.table.find? j.taskId) → Step n { n with table }

/-- Both sides before anything has happened, with any table of tasks. -/
def start (S R : Settings) (id : String) (table : TaskTable) : Net :=
  { sender := { settings := S, id }, receiver := { settings := R }, table }

/-! ### Sharing a text -/

/-- One event between the two sides alone: no frame gets lost, nothing is downloaded, nobody else uses the
table, and the sender begins with the given task. -/
inductive Talks (task : SharedTask) : Net → Net → Prop
  /-- Something other than a frame happens to the sender. -/
  | sender (n : Net) (env : Surroundings) (event : Sender.Event) : n.Honest env →
      (∀ bytes, event ≠ .frame bytes) → (∀ task' network, event = .begin task' network → task' = task) →
      Talks task n (n.senderDoes env event)
  /-- Something other than a frame or the end of a download happens to the receiver. -/
  | receiver (n : Net) (env : Surroundings) (event : Receiver.Event) : n.Honest env →
      (∀ bytes, event ≠ .frame bytes) → (∀ names, event ≠ .downloadFinished (.ok names)) →
      Talks task n (n.receiverDoes env event)
  /-- The next frame arrives at the sender. -/
  | toSender (n : Net) (env : Surroundings) (bytes : Bytes) (rest : List Bytes) : n.Honest env →
      n.toSender = bytes :: rest →
      Talks task n ({ n with toSender := rest }.senderDoes env (.frame bytes))
  /-- The next frame arrives at the receiver. -/
  | toReceiver (n : Net) (env : Surroundings) (bytes : Bytes) (rest : List Bytes) : n.Honest env →
      n.toReceiver = bytes :: rest →
      Talks task n ({ n with toReceiver := rest }.receiverDoes env (.frame bytes))

variable {task : SharedTask} {n n' : Net}

/-- What happens between the two sides alone is an event of the network. -/
lemma Talks.step (h : Talks task n n') : Step n n' := by
  cases h with
  | sender env event henv hframe => exact .sender n env event henv hframe
  | receiver env event henv hframe => exact .receiver n env event henv hframe
  | toSender env bytes rest henv hqueue => exact .toSender n env bytes rest henv hqueue
  | toReceiver env bytes rest henv hqueue => exact .toReceiver n env bytes rest henv hqueue

/-- Surroundings with the ideal provider that remembers some sealings. -/
def remembering (known : List Sealing) : Surroundings :=
  { Handshake.idealSurroundings [] with provider := .ideal known }

/-- Surroundings that remember what was sealed are honest. -/
lemma honest_remembering {known : List Sealing} (h : ∀ x ∈ known, x ∈ n.log) : n.Honest (remembering known) :=
  Provider.opensOnly_ideal h

/-- A run leads to a network with the given parts, in which some known texts, and maybe others, were sealed. -/
def LeadsTo (task : SharedTask) (n : Net) (known : List Sealing) (s : Sender) (r : Receiver) (table : TaskTable)
    (toReceiver toSender : List Bytes) (senderSaid : List Sender.Intent) (receiverSaid : List Receiver.Intent) :
    Prop :=
  ∃ log, (∀ x ∈ known, x ∈ log) ∧ Relation.ReflTransGen (Talks task) n
    { sender := s, receiver := r, table, toReceiver, toSender, senderSaid, receiverSaid, log }

namespace LeadsTo

variable {known made : List Sealing} {s s' : Sender} {r r' : Receiver} {table table' : TaskTable}
  {forward back rest : List Bytes} {senderSaid intents : List Sender.Intent}
  {receiverSaid intents' : List Receiver.Intent} {used : Bool} {bytes : Bytes}

/-- The sender goes on with an event of its own. -/
lemma sender (h : LeadsTo task n known s r table forward back senderSaid receiverSaid) (event : Sender.Event)
    (hturn : s.handle (remembering known) event table = ⟨s', table', intents, used, false⟩)
    (hframe : ∀ bytes, event ≠ .frame bytes)
    (hbegin : ∀ task' network, event = .begin task' network → task' = task) :
    LeadsTo task n known s' r table' (forward ++ intents.filterMap (·.frame?)) back (senderSaid ++ intents)
      receiverSaid := by
  obtain ⟨log, hknown, hrun⟩ := h
  have hnext := hrun.tail (.sender _ _ event (honest_remembering hknown) hframe hbegin)
  simp only [senderDoes, hturn] at hnext
  exact ⟨_, fun x hx => .inl (hknown x hx), hnext⟩

/-- The receiver goes on with an event of its own. -/
lemma receiver (h : LeadsTo task n known s r table forward back senderSaid receiverSaid)
    (event : Receiver.Event) (hturn : r.handle (remembering known) event = ⟨r', (), intents', used, false⟩)
    (hframe : ∀ bytes, event ≠ .frame bytes) (hdownload : ∀ names, event ≠ .downloadFinished (.ok names)) :
    LeadsTo task n known s r' table forward (back ++ intents'.filterMap (·.frame?)) senderSaid
      (receiverSaid ++ intents') := by
  obtain ⟨log, hknown, hrun⟩ := h
  have hnext := hrun.tail (.receiver _ _ event (honest_remembering hknown) hframe hdownload)
  simp only [receiverDoes, hturn] at hnext
  exact ⟨_, fun x hx => .inl (hknown x hx), hnext⟩

/-- A frame to the sender. What is sealed on that is known from now on. -/
lemma toSender_making (h : LeadsTo task n known s r table forward (bytes :: rest) senderSaid receiverSaid)
    (hturn : s.handle (remembering known) (.frame bytes) table = ⟨s', table', intents, used, false⟩)
    (hmade : ∀ x ∈ made, (remembering known).provider.Makes
      (fun p => s.handle { remembering known with provider := p } (.frame bytes) table) x) :
    LeadsTo task n (made ++ known) s' r table' (forward ++ intents.filterMap (·.frame?)) rest
      (senderSaid ++ intents) receiverSaid := by
  obtain ⟨log, hknown, hrun⟩ := h
  have hnext := hrun.tail (.toSender _ _ bytes rest (honest_remembering hknown) rfl)
  simp only [senderDoes, hturn] at hnext
  refine ⟨_, fun x hx => ?_, hnext⟩
  obtain hx | hx := List.mem_append.1 hx
  · exact .inr (hmade x hx)
  · exact .inl (hknown x hx)

/-- The sender goes on with the next frame, when that is no reason to seal. -/
lemma toSender (h : LeadsTo task n known s r table forward (bytes :: rest) senderSaid receiverSaid)
    (hturn : s.handle (remembering known) (.frame bytes) table = ⟨s', table', intents, used, false⟩) :
    LeadsTo task n known s' r table' (forward ++ intents.filterMap (·.frame?)) rest (senderSaid ++ intents)
      receiverSaid := h.toSender_making hturn (List.forall_mem_nil _)

/-- A frame to the receiver. What is sealed on that is known from now on. -/
lemma toReceiver_making (h : LeadsTo task n known s r table (bytes :: rest) back senderSaid receiverSaid)
    (hturn : r.handle (remembering known) (.frame bytes) = ⟨r', (), intents', used, false⟩)
    (hmade : ∀ x ∈ made, (remembering known).provider.Makes
      (fun p => r.handle { remembering known with provider := p } (.frame bytes)) x) :
    LeadsTo task n (made ++ known) s r' table rest (back ++ intents'.filterMap (·.frame?)) senderSaid
      (receiverSaid ++ intents') := by
  obtain ⟨log, hknown, hrun⟩ := h
  have hnext := hrun.tail (.toReceiver _ _ bytes rest (honest_remembering hknown) rfl)
  simp only [receiverDoes, hturn] at hnext
  refine ⟨_, fun x hx => ?_, hnext⟩
  obtain hx | hx := List.mem_append.1 hx
  · exact .inr (hmade x hx)
  · exact .inl (hknown x hx)

/-- The receiver goes on with the next frame, when that is no reason to seal. -/
lemma toReceiver (h : LeadsTo task n known s r table (bytes :: rest) back senderSaid receiverSaid)
    (hturn : r.handle (remembering known) (.frame bytes) = ⟨r', (), intents', used, false⟩) :
    LeadsTo task n known s r' table rest (back ++ intents'.filterMap (·.frame?)) senderSaid
      (receiverSaid ++ intents') := h.toReceiver_making hturn (List.forall_mem_nil _)

end LeadsTo

open Handshake Exchange

variable {S R : Settings} {id text : String} {network : NetworkInfo} {port : UInt16} {totalSize : UInt64}
  {table : TaskTable}

/-- Both sides can meet: the sender waits for its channel, whose other end is open. -/
lemma exists_leadsTo_met (S R : Settings) (id : String) (hport : network.servicePort? = some port)
    (hkey : network.key = none) (hsize : task.totalSize? = some totalSize) (hnew : table.find? task.id = none) :
    ∃ s table' senderSaid receiverSaid,
      LeadsTo task (start S R id table) [] s { settings := R, stage := .handshakeConnected } table' [] []
        senderSaid receiverSaid ∧
      s.settings = S ∧ s.stage = .networkJoinObserved ∧ s.channel = .start .sender ∧
      s.job = some ⟨task.id, task.announce totalSize id S.deviceName, network, port⟩ ∧ table'.Has task .offered := by
  obtain ⟨table₁, hregister, hoffered⟩ := TaskTable.exists_register hnew 0
  let env := remembering []
  let key := Receiver.credentialKey? env R
  -- the sender reads a description without a key, so that it writes its network as it is
  let info := Receiver.deviceInfo R none
  let written : NetworkInfo := { network with id := some id }
  let j : Sender.Job := ⟨task.id, task.announce totalSize id S.deviceName, network, port⟩
  let s₁ : Sender := { settings := S, id, stage := .advertising, job := some j }
  let s₂ : Sender := { s₁ with peer := some info }
  let r₁ : Receiver := { settings := R, stage := .advertised, credentialKey := key.or none }
  let r₂ : Receiver := { settings := R, stage := .credentialsReceived port }
  have hwritten : Sender.credentialsFor env info network { session := s₁, table := table₁ } =
      .ok written { session := s₁, table := table₁ } := by
    simp only [Sender.credentialsFor, Steps.bind_apply, Act.session_apply, s₁]
    cases S.encryption <;> rfl
  have hopened : Receiver.openCredentials env written { session := r₁ } =
      .ok written { session := { r₁ with credentialKey := none } } := by
    simp only [Receiver.openCredentials, Steps.bind_apply, Act.session_apply,
      Act.update_apply, written, hkey]
    rfl
  have h₀ : LeadsTo task (start S R id table) [] { settings := S, id } { settings := R } table [] [] [] [] :=
    ⟨∅, by simp, .refl⟩
  have h₁ : LeadsTo task (start S R id table) [] s₁ { settings := R } table₁ [] [] _ _ :=
    h₀.sender _ (Sender.handle_of_answers (.began rfl hport hsize hregister) (by simp)) (by simp)
      (by rintro _ _ ⟨⟩; rfl)
  have h₂ : LeadsTo task (start S R id table) [] s₁ r₁ table₁ [] [] _ _ :=
    h₁.receiver _ (Receiver.handle_of_answers rfl (.published rfl) (by simp)) (by simp) (by simp)
  have h₃ : LeadsTo task (start S R id table) [] s₂ r₁ table₁ [] [] _ _ :=
    h₂.sender _ (Sender.handle_of_answers (.described rfl rfl (DeviceInfo.decode_encode info) rfl hwritten)
      (by simp)) (by simp) (by simp)
  have h₄ : LeadsTo task (start S R id table) [] s₂ r₂ table₁ [] [] _ _ :=
    h₃.receiver _ (Receiver.handle_of_answers rfl (.joins rfl (NetworkInfo.decode_encode written) hopened hport)
      (by simp)) (by simp) (by simp)
  have h₅ : LeadsTo task (start S R id table) [] { s₂ with stage := .credentialsWritten } r₂ table₁ [] [] _ _ :=
    h₄.sender _ (Sender.handle_of_answers (.awaits rfl rfl rfl) (by simp)) (by simp) (by simp)
  have h₆ : LeadsTo task (start S R id table) [] { s₂ with stage := .credentialsWritten }
      { r₂ with stage := .networkJoined } table₁ [] [] _ _ :=
    h₅.receiver (.networkJoined "") (Receiver.handle_of_answers rfl (.connects rfl) (by simp))
      (by simp) (by simp)
  have h₇ : LeadsTo task (start S R id table) [] { s₂ with stage := .networkJoinObserved }
      { r₂ with stage := .networkJoined } table₁ [] [] _ _ :=
    h₆.sender _ (Sender.handle_of_answers (.joined (j := j) rfl rfl) (by simp)) (by simp) (by simp)
  have h₈ : LeadsTo task (start S R id table) [] { s₂ with stage := .networkJoinObserved }
      { settings := R, stage := .handshakeConnected } table₁ [] [] _ _ :=
    h₇.receiver _ (Receiver.handle_of_answers rfl (.connected rfl) (by simp)) (by simp) (by simp)
  exact ⟨_, _, _, _, h₈, rfl, rfl, rfl, rfl, hoffered⟩

/-! ### What is sealed on the way -/

section Sealings

variable {known : List Sealing} {key? : Option SharedKey} {s : Sender} {r : Receiver} {j : Sender.Job}
  {request : SendRequest} {bytes : Bytes} {reason : String} {outcome : Outcome}

/-- An announcement is one whatever the ideal provider remembers. -/
lemma isAnnouncement_ideal {known' : List Sealing} (h : IsAnnouncement (.ideal known) key? request bytes) :
    IsAnnouncement (.ideal known') key? request bytes := h

/-- A report is one whatever the ideal provider remembers. -/
lemma isReport_ideal {known' : List Sealing} (h : IsReport (.ideal known) key? id outcome reason bytes) :
    IsReport (.ideal known') key? id outcome reason bytes := h

/-- The ideal provider opens an announcement that it remembers. -/
lemma opensAnnouncement_ideal {key : SharedKey} {ciphertext : Bytes}
    (h : Utf8.encode (Json.Record.toJson request).render = ciphertext) :
    OpensAnnouncement (.ideal (announcementSealing key request ciphertext :: known)) (some key) request := by
  rintro _ ciphertext' ⟨⟩ hsealed
  -- what the ideal provider seals it shows
  obtain rfl : Utf8.encode (Json.Record.toJson request).render = ciphertext' := Except.ok.inj hsealed
  subst h
  exact Provider.decrypt_ideal_cons _ _

/-- The ideal provider opens a report that it remembers. -/
lemma opensReport_ideal {key : SharedKey} {ciphertext : Bytes}
    (h : Utf8.encode (Receiver.reportJson id outcome reason).render = ciphertext) :
    OpensReport (.ideal (reportSealing key id outcome reason ciphertext :: known)) (some key) id outcome reason := by
  rintro _ ciphertext' ⟨⟩ hsealed
  obtain rfl : Utf8.encode (Receiver.reportJson id outcome reason).render = ciphertext' := Except.ok.inj hsealed
  subst h
  exact Provider.decrypt_ideal_cons _ _

/-- A sender that announces its task on an answer seals the announcement, if there is a key. -/
lemma exists_made_announcement (table : TaskTable) {crypto : Option CryptoContext} {ack : VersionOffer}
    {e : Surroundings} (hs : s.stage = .handshakeConnected) (hchannel : s.channel = offering crypto)
    (hjob : s.job = some j) (hsettled : Settled (.ideal known) s.settings R crypto e ack key?)
    (hversion : worstVersion s.settings R ≤ bestVersion s.settings R)
    (h : IsAnnouncement (.ideal known) key? j.request bytes) :
    ∃ made, (∀ x ∈ made, (remembering known).provider.Makes
        (fun p => s.handle { remembering known with provider := p } (.frame (answerFrame ack)) table) x) ∧
      OpensAnnouncement (.ideal (made ++ known)) key? j.request := by
  cases key? with
  | none => exact ⟨[], List.forall_mem_nil _, opensAnnouncement_none⟩
  | some key =>
    have hreceive : Channel.receive (remembering known).provider (answerFrame ack) s.channel = _ :=
      hchannel ▸ receive_answer
    obtain ⟨hhere, hthere⟩ := hsettled.mem_versions hversion
    obtain ⟨ciphertext, -, hmade⟩ := Sender.makes_announced (remembering known) table hs hreceive
      (readBody_offer _) hhere hthere hsettled.sender hjob h rfl rfl
    refine ⟨[announcementSealing key j.request ciphertext], List.forall_mem_singleton.2 hmade, ?_⟩
    exact opensAnnouncement_ideal (Except.ok.inj hmade.1)

/-- A receiver that shows a text seals the report of that, if there is a key. -/
lemma exists_made_report {announcement : Bytes} (hr : r.stage = .versionNegotiated)
    (hchannel : r.channel = listening key?) (ho : OpensAnnouncement (.ideal known) key? request)
    (hannounce : IsAnnouncement (.ideal known) key? request announcement) (htask : request.task? = some id)
    (htext : request.catShareText = some text) (h : IsReport (.ideal known) key? id .ok "" bytes) :
    ∃ made, (∀ x ∈ made, (remembering known).provider.Makes
        (fun p => r.handle { remembering known with provider := p } (.frame announcement)) x) ∧
      OpensReport (.ideal (made ++ known)) key? id .ok "" := by
  cases key? with
  | none => exact ⟨[], List.forall_mem_nil _, opensReport_none⟩
  | some key =>
    have hreceive : Channel.receive (remembering known).provider announcement r.channel = _ :=
      hchannel ▸ receive_announcement ho hannounce
    obtain ⟨ciphertext, -, hmade⟩ := Receiver.makes_shown (remembering known) hr hreceive
      (readBody_announcement _) htask Channel.sendAck_empty htext h rfl rfl
    refine ⟨[reportSealing key id .ok "" ciphertext], List.forall_mem_singleton.2 hmade, ?_⟩
    exact opensReport_ideal (Except.ok.inj hmade.1)

end Sealings

/-! ### Sharing a text -/

/-- The sender has announced its task, and the receiver waits for that. -/
structure Announced (R : Settings) (j : Sender.Job) (key? : Option SharedKey) (known : List Sealing) (s : Sender)
    (r : Receiver) (announcement : Bytes) : Prop where
  sent : s.stage = .requestSent
  announcing : s.channel = announcing key?
  job : s.job = some j
  settings : r.settings = R
  negotiated : r.stage = .versionNegotiated
  listening : r.channel = listening key?
  unreported : r.reported = none
  announcement : IsAnnouncement (.ideal known) key? j.request announcement
  opens : OpensAnnouncement (.ideal known) key? j.request

/-- Both sides can agree on a version, and the sender can announce its task. -/
lemma exists_leadsTo_announced (S R : Settings) (id : String) (hversion : worstVersion S R ≤ bestVersion S R)
    (hport : network.servicePort? = some port) (hkey : network.key = none)
    (hsize : task.totalSize? = some totalSize) (hnew : table.find? task.id = none) :
    ∃ known s r table' announcement senderSaid receiverSaid key?,
      LeadsTo task (start S R id table) known s r table' [announcement] [] senderSaid receiverSaid ∧
      Announced R ⟨task.id, task.announce totalSize id S.deviceName, network, port⟩ key? known s r announcement ∧
      key?.isSome = (S.encryption && R.encryption) ∧
      .negotiated (bestVersion S R) (.negotiate S.encryption R.encryption) ∈ senderSaid ∧
      .negotiated (bestVersion S R) (.negotiate S.encryption R.encryption) ∈ receiverSaid ∧
      table'.Has task .offered := by
  obtain ⟨s, table₁, said, said', hmet, rfl, hstage, hchannel, hjob, hoffered⟩ :=
    exists_leadsTo_met S R id hport hkey hsize hnew
  obtain ⟨crypto, hshare⟩ : ∃ crypto, Sender.share (remembering []) s.settings = .ok crypto := by
    obtain ⟨-, hshare⟩ | ⟨pair, -, -, hshare⟩ :=
      share_of_generate (S := s.settings) (e := remembering []) fun _ => ⟨_, rfl⟩
    · exact ⟨_, hshare⟩
    · exact ⟨_, hshare⟩
  obtain ⟨ack, key?, hsettled⟩ : ∃ ack key?, Settled (.ideal []) s.settings R crypto (remembering []) ack key? :=
    exists_settled (cooperates_ideal []) rfl rfl hshare fun _ => ⟨_, rfl⟩
  have hasked := hmet.sender _ (handle_channelOpened table₁ hstage hchannel hshare) nofun nofun
  have hagreed := hasked.toReceiver (handle_offer rfl rfl ⟨_, hshare⟩ hsettled hversion)
  let s' : Sender := { s with stage := .handshakeConnected, channel := offering crypto }
  obtain ⟨announcement, hannounce, hanswered⟩ :=
    handle_answer table₁ (s := s') (e := remembering []) (cooperates_ideal []) rfl rfl rfl hjob hsettled hversion
  obtain ⟨made, hmade, hopens⟩ :=
    exists_made_announcement (s := s') table₁ rfl rfl hjob hsettled hversion hannounce
  exact ⟨_, _, _, _, announcement, _, _, key?, hagreed.toSender_making hanswered hmade,
    ⟨rfl, rfl, hjob, rfl, rfl, rfl, rfl, isAnnouncement_ideal hannounce, hopens⟩, hsettled.isSome_key,
    by simp [s'], by simp, hoffered⟩

/-- Two sides with a version in common can share a text, encrypted or not: there is a run at whose end both
have ended with success. -/
theorem exists_text_run (S R : Settings) (id : String) (hversion : worstVersion S R ≤ bestVersion S R)
    (hid : task.id ≠ "") (htext : task.text = some text) (hport : network.servicePort? = some port)
    (hkey : network.key = none) (hsize : task.totalSize? = some totalSize) (hnew : table.find? task.id = none) :
    ∃ n, Relation.ReflTransGen (Talks task) (start S R id table) n ∧
      .finished (.ok task.id) ∈ n.senderSaid ∧ .finished (.ok task.id) ∈ n.receiverSaid ∧
      .textReceived task.id text ∈ n.receiverSaid ∧
      .negotiated (bestVersion S R) (.negotiate S.encryption R.encryption) ∈ n.senderSaid ∧
      .negotiated (bestVersion S R) (.negotiate S.encryption R.encryption) ∈ n.receiverSaid := by
  obtain ⟨known, s, r, table₁, announcement, said, said', key?, hannounced, h, -, hmode, hmode', hoffered⟩ :=
    exists_leadsTo_announced S R id hversion hport hkey hsize hnew
  obtain ⟨table₂, hrequest, hrequested⟩ := hoffered.request
  obtain ⟨table₃, hfinish, -⟩ := hrequested.finish rfl .completed 0
  let request := task.announce totalSize id S.deviceName
  have htask : request.task? = some task.id := task?_announce task totalSize id S.deviceName hid
  -- the text is shown and its arrival reported
  obtain ⟨report, hreport, hshown⟩ :=
    handle_announcement_text (e := remembering known) (cooperates_ideal known) h.opens rfl h.negotiated h.listening
      h.announcement htask htext
  obtain ⟨made, hmade, hopens⟩ :=
    exists_made_report h.negotiated h.listening h.opens h.announcement htask htext hreport
  have hreported := hannounced.toReceiver_making hshown hmade
  have hauthorized := hreported.toSender (handle_requestAck h.sent h.announcing h.job hrequest)
  obtain ⟨channel, hcompleted⟩ :=
    handle_report (e := remembering (made ++ known)) (s := { s with stage := .requestAcked, channel := waiting key? })
      (j := ⟨task.id, request, network, port⟩) hopens rfl (.inl rfl) rfl h.job (isReport_ideal hreport) hfinish
  have hended := hauthorized.toSender hcompleted
  obtain ⟨channel', hdone⟩ := handle_statusAck (e := remembering (made ++ known))
    (r := { r with
      stage := .requestReceived
      channel := reporting key?
      request := some request
      reported := some .ok }) rfl rfl htask rfl
  obtain ⟨log, -, hrun⟩ := hended.toReceiver hdone
  exact ⟨_, hrun, by simp, by simp, by simp, by simp [hmode], by simp [hmode']⟩

end Net

end DirectShare
