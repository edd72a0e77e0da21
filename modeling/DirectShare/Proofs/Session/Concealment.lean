import Mathlib
import DirectShare.Proofs.Session.Registration
import DirectShare.Proofs.Session.SenderScript
import DirectShare.Proofs.Task.Outline

/-!
# What an encrypted session tells of its task

A sender reads the contents of its task only when it announces it. If the announcement is sealed, and sealing tells
no more of a plaintext than its length, two senders whose announcements have the same length send the same bytes,
whatever happens to them.

`Sender.Alike` relates two senders that differ at most in what they announce, and not in its length. A step is
`Sender.Uniform` if it does the same to turns that are alike; the steps of a turn are, and a handler is if its
steps are. Only the announcement itself is not, since what it says depends on the encryption, and
`Sender.step_alike` says what holds there. `Desk.contents_stay_hidden` follows by induction on what happens at
a desk (`Desk.Move`), for the intents that others get to see (`Sender.aired`).
-/

namespace DirectShare

/-- What comes of sealing depends on no more of a plaintext than its length. -/
def Provider.IsOblivious (p : Provider) : Prop :=
  ∀ key nonce header x y, x.length = y.length → p.encrypt key nonce header x = p.encrypt key nonce header y

/-- The number of bytes of the body of an announcement. -/
def SendRequest.size (request : SendRequest) : Nat := (Utf8.encode (Json.Record.toJson request).render).length

/-- The number of bytes of the body that announces a task, if its files are not too large to be announced. -/
def SharedTask.announcedSize? (task : SharedTask) (senderId senderName : String) : Option Nat :=
  task.totalSize?.map fun totalSize => (task.announce totalSize senderId senderName).size

/-! ### Channels -/

namespace Channel

variable {p : Provider} {kind : Frame.Kind} {sequence : UInt32} {action : Action} {ch : Channel} {b b' : Json}

/-- Under a key, bodies of the same length are sealed as the same bytes. -/
lemma sealBody_of_isOblivious (hp : p.IsOblivious) (hkeyed : ch.IsKeyed) (ha : action ≠ .versionNegotiation)
    (hlength : (Utf8.encode b.render).length = (Utf8.encode b'.render).length) :
    sealBody p kind sequence action (some b) ch = sealBody p kind sequence action (some b') ch := by
  obtain ⟨c, key, hc, hk⟩ := hkeyed
  rw [sealBody_keyed hc hk ha, sealBody_keyed hc hk ha]
  simp only [Sealing.ofBody, hp key _ _ _ _ hlength]

/-- Under a key, actions with bodies of the same length are sent as the same bytes. -/
lemma sendAction_of_isOblivious (hp : p.IsOblivious) (hkeyed : ch.IsKeyed) (ha : action ≠ .versionNegotiation)
    (hlength : (Utf8.encode b.render).length = (Utf8.encode b'.render).length) :
    sendAction p action (some b) ch = sendAction p action (some b') ch := by
  have hcounted : IsKeyed { ch with nextSequence := ch.nextSequence + 1 } := hkeyed
  by_cases hready : ch.IsReady
  · rw [sendAction_of_isReady hready, sendAction_of_isReady hready, sealBody_of_isOblivious hp hcounted ha hlength]
  · obtain ⟨e, -, -, hsend⟩ := sendAction_of_not_isReady hready action
    rw [hsend, hsend]

end Channel

namespace Sender

/-! ### Senders that are alike -/

/-- Two jobs differ at most in what is to be announced, but not in its length. -/
inductive Job.Alike : Job → Job → Prop
  | intro {j : Job} (request : SendRequest) : j.request.size = request.size → Alike j { j with request }

/-- Two senders differ at most in what they announce, but not in its length. -/
inductive Alike : Sender → Sender → Prop
  | intro {s : Sender} (job : Option Job) : Option.Rel Job.Alike s.job job → Alike s { s with job }

/-- Two turns have the same intents, and differ at most in the contents of tasks. -/
structure Turn.Alike (t t' : Turn) : Prop where
  session : t.session.Alike t'.session
  table : t.table.outline = t'.table.outline
  intents : t.intents = t'.intents
  crashed : t.crashed = t'.crashed

namespace Alike

variable {s s' : Sender}

/-- Senders that are alike are in the same stage. -/
lemma stage (h : s.Alike s') : s.stage = s'.stage := by
  obtain ⟨job, -⟩ := h
  rfl

/-- Senders that are alike have the same channel. -/
lemma channel (h : s.Alike s') : s.channel = s'.channel := by
  obtain ⟨job, -⟩ := h
  rfl

/-- Both senders have jobs, which are alike, or neither has one. -/
lemma job_cases (h : s.Alike s') :
    (s.job = none ∧ s'.job = none) ∨ ∃ j j', s.job = some j ∧ s'.job = some j' ∧ j.Alike j' := by
  obtain ⟨job', hjob⟩ := h
  cases hj : s.job with
  | none =>
    rw [hj] at hjob
    cases hjob
    exact .inl ⟨rfl, rfl⟩
  | some j =>
    rw [hj] at hjob
    cases hjob with
    | some halike => exact .inr ⟨j, _, rfl, rfl, halike⟩

/-- Senders stay alike in the same stage. -/
lemma withStage (stage : Stage) (h : s.Alike s') : Alike { s with stage } { s' with stage } := by
  obtain ⟨job, hjob⟩ := h
  exact ⟨job, hjob⟩

/-- Senders that are alike stay so with jobs that are alike. -/
lemma withJob {j j' : Job} (hj : j.Alike j') (h : s.Alike s') :
    Alike { s with job := some j } { s' with job := some j' } := by
  obtain ⟨job, -⟩ := h
  exact ⟨some j', .some hj⟩

/-- Senders stay alike with the same description of a receiver. -/
lemma withPeer (peer : Option DeviceInfo) (h : s.Alike s') : Alike { s with peer } { s' with peer } := by
  obtain ⟨job, hjob⟩ := h
  exact ⟨job, hjob⟩

/-- Senders stay alike when the same is done to their channels. -/
lemma withChannel (change : Channel → Channel) (h : s.Alike s') :
    Alike { s with channel := change s.channel } { s' with channel := change s'.channel } := by
  obtain ⟨job, hjob⟩ := h
  exact ⟨job, hjob⟩

end Alike

/-- A sender that nothing has happened to is like itself. -/
lemma alike_start (settings : Settings) (id : String) :
    Alike { settings, id } { settings, id } := ⟨none, .none⟩

/-- Two events are the same, up to the contents of a task whose announcements have the same length. -/
inductive Event.Alike (id deviceName : String) : Event → Event → Prop
  | same (event : Event) : Alike id deviceName event event
  | begin {task task' : SharedTask} (network : NetworkInfo) :
      task.id = task'.id → task.announcedSize? id deviceName = task'.announcedSize? id deviceName →
      Alike id deviceName (.begin task network) (.begin task' network)

/-- What was said reveals that there is no encryption. -/
def Exposed (intents : List Intent) : Prop := ∃ version, .negotiated version .disabled ∈ intents

/-! ### Steps that do not tell contents apart -/

open Act

variable {α β : Type} {x x' : Act α} {f f' : α → Act β} {t t' : Turn}

/-- Two steps succeed with the same value, or both fail, and leave turns that are alike. -/
inductive Agree : EStateM.Result Failure Turn α → EStateM.Result Failure Turn α → Prop
  | ok {a : α} {t t' : Turn} : t.Alike t' → Agree (.ok a t) (.ok a t')
  | error {e e' : Failure} {t t' : Turn} : t.Alike t' → Agree (.error e t) (.error e' t')

/-- From turns that are alike, the two steps agree. -/
def Uniform (x x' : Act α) : Prop := ∀ ⦃t t' : Turn⦄, t.Alike t' → Agree (x t) (x' t')

namespace Uniform

/-- Giving a value tells nothing. -/
lemma pure (a : α) : Uniform (pure a) (pure a) := fun _ _ => .ok

/-- Failing tells nothing, whatever the failure. -/
lemma throw (e e' : Failure) : Uniform (throw e : Act α) (throw e') := fun _ _ => .error

/-- One step after another tells nothing if neither does. -/
lemma bind (hx : Uniform x x') (hf : ∀ a, Uniform (f a) (f' a)) : Uniform (x >>= f) (x' >>= f') := by
  intro t t' h
  simp only [Steps.bind_apply]
  have hagree := hx h
  revert hagree
  generalize x t = r
  generalize x' t' = r'
  intro hagree
  cases hagree with
  | ok hnext => exact hf _ hnext
  | error hnext => exact .error hnext

/-- What is done with the session tells nothing if it does the same to senders that are alike. -/
lemma session_bind {f f' : Sender → Act β} (hf : ∀ s s', s.Alike s' → Uniform (f s) (f' s')) :
    Uniform (session >>= f) (session >>= f') := fun _ _ h => hf _ _ h.session h

/-- What is done with the job tells nothing if it does the same to jobs that are alike. -/
lemma currentJob_bind {f f' : Job → Act β} (hf : ∀ j j', j.Alike j' → Uniform (f j) (f' j')) :
    Uniform (currentJob >>= f) (currentJob >>= f') := by
  intro t t' h
  simp only [Steps.bind_apply, currentJob_apply]
  obtain ⟨hj, hj'⟩ | ⟨j, j', hj, hj', halike⟩ := h.session.job_cases
  · rw [hj, hj']
    exact .error h
  · rw [hj, hj']
    exact hf j j' halike h

/-- Emitting an intent tells nothing beyond it. -/
lemma emit (i : Intent) : Uniform (emit i) (emit i) := fun _ _ h =>
  .ok ⟨h.session, h.table, congrArg (· ++ [i]) h.intents, h.crashed⟩

/-- Updating the session tells nothing if it keeps senders alike. -/
lemma update {change change' : Sender → Sender} (hchange : ∀ s s', s.Alike s' → (change s).Alike (change' s')) :
    Uniform (update change) (update change') := fun _ _ h => .ok ⟨hchange _ _ h.session, h.table, h.intents, h.crashed⟩

/-- Entering a stage tells nothing. -/
lemma enter (stage : Stage) : Uniform (enter stage) (enter stage) :=
  .update fun _ _ h => h.withStage stage

/-- Crashing tells nothing. -/
lemma crash : Uniform crash crash := fun _ _ h => .ok ⟨h.session, h.table, h.intents, rfl⟩

/-- Using random bytes tells nothing. -/
lemma useRandom : Uniform useRandom useRandom := fun _ _ h => .ok ⟨h.session, h.table, h.intents, h.crashed⟩

/-- What the channel does tells nothing. -/
lemma onChannel (act : EStateM Failure Channel α) : Uniform (onChannel act) (onChannel act) := by
  intro t t' h
  simp only [onChannel_apply, staged_channel, staged_withChannel, h.session.channel]
  cases act t'.session.channel with
  | ok a channel => exact .ok ⟨h.session.withChannel fun _ => channel, h.table, h.intents, h.crashed⟩
  | error e channel => exact .error ⟨h.session.withChannel fun _ => channel, h.table, h.intents, h.crashed⟩

/-- What the table does tells nothing if it makes the same of outlines. -/
lemma onTable {change change' : TaskTable → Except TaskError TaskTable}
    (hchange : ∀ table table', table.outline = table'.outline →
      (change table).map TaskTable.outline = (change' table').map TaskTable.outline) :
    Uniform (onTable change) (onTable change') := by
  intro t t' h
  simp only [onTable_apply]
  obtain ⟨e, hdone, hdone'⟩ | ⟨table, table', hdone, hdone', houtline⟩ :=
    TaskTable.outline_cases (hchange _ _ h.table)
  · rw [hdone, hdone']
    exact .error h
  · rw [hdone, hdone']
    exact .ok ⟨h.session, houtline, h.intents, h.crashed⟩

/-- A failure of credentials tells nothing. -/
lemma credential (r : Except CryptoError α) : Uniform (credential r) (credential r) := by
  cases r with
  | ok a => exact .pure a
  | error e => exact .throw _ _

/-- A failure to read tells nothing. -/
lemma reading (r : Except Failure α) : Uniform (reading r) (reading r) := by
  cases r with
  | ok a => exact .pure a
  | error e => exact .throw _ _

end Uniform

/-! ### The steps of a sender -/

variable {env : Surroundings}

/-- Refusing something tells nothing, whatever it is. -/
lemma uniform_refuse [Inspect α] (what what' : α) : Uniform (refuse what) (refuse what') :=
  .session_bind fun _ _ _ => .throw _ _

/-- Making the credentials for a receiver tells nothing. -/
lemma uniform_credentialsFor (info : DeviceInfo) (network : NetworkInfo) :
    Uniform (credentialsFor env info network) (credentialsFor env info network) := by
  refine .session_bind fun s s' hs => ?_
  obtain ⟨-⟩ := hs
  simp only
  cases (if s.settings.encryption then info.key else none) with
  | none => exact .pure _
  | some peerKey => exact .bind .useRandom fun _ => .bind (.credential _) fun _ => .pure _

/-- Reading the description of a receiver tells nothing. -/
lemma uniform_onDeviceInfo (bytes : Bytes) : Uniform (onDeviceInfo env bytes) (onDeviceInfo env bytes) := by
  rw [onDeviceInfo]
  cases DeviceInfo.decode bytes with
  | error e => exact .throw _ _
  | ok info =>
    refine .currentJob_bind fun j j' hj => ?_
    obtain ⟨-⟩ := hj
    exact .bind (uniform_credentialsFor _ _) fun _ => .bind (.update fun _ _ h => h.withPeer _) fun _ => .emit _

/-- Having written the credentials tells nothing. -/
lemma uniform_onCredentialsWritten : Uniform onCredentialsWritten onCredentialsWritten := by
  refine .currentJob_bind fun j j' hj => ?_
  obtain ⟨-⟩ := hj
  exact .bind (.enter _) fun _ => .emit _

/-- The coming of the receiver tells nothing. -/
lemma uniform_onPeerConnected (port : UInt16) : Uniform (onPeerConnected port) (onPeerConnected port) := by
  refine .currentJob_bind fun j j' hj => ?_
  obtain ⟨-⟩ := hj
  simp only
  split_ifs
  · exact .enter _
  · exact .throw _ _

/-- Taking a share in the encryption tells nothing. -/
lemma uniform_prepareCrypto : Uniform (prepareCrypto env) (prepareCrypto env) := by
  refine .session_bind fun s s' hs => ?_
  obtain ⟨-⟩ := hs
  simp only
  split_ifs
  · cases CryptoContext.create env.provider .sender env.random with
    | error e => exact .throw _ _
    | ok c =>
      refine .bind .useRandom fun _ => .bind (.update fun _ _ h => ?_) fun _ => .pure _
      exact h.withChannel fun ch => { ch with crypto := some c }
  · exact .pure _

/-- Sending the offer tells nothing. -/
lemma uniform_onChannelOpened : Uniform (onChannelOpened env) (onChannelOpened env) := by
  refine .bind (.enter _) fun _ => .session_bind fun s s' hs => ?_
  obtain ⟨-⟩ := hs
  exact .bind uniform_prepareCrypto fun _ => .bind (.onChannel _) fun _ => .emit _

/-- The acknowledgement of the announcement tells nothing. -/
lemma uniform_onRequestAck : Uniform onRequestAck onRequestAck := by
  refine .currentJob_bind fun j j' hj => ?_
  obtain ⟨-⟩ := hj
  refine .bind (.onTable fun table table' h => ?_) fun _ => .bind (.enter _) fun _ => .emit _
  rw [TaskTable.outline_request, TaskTable.outline_request, h]

/-- The report of the receiver tells nothing. -/
lemma uniform_onStatus (sequence : UInt32) (body : Option Json) :
    Uniform (onStatus env sequence body) (onStatus env sequence body) := by
  refine .bind (.reading _) fun report => .currentJob_bind fun j j' hj => ?_
  obtain ⟨-⟩ := hj
  simp only
  cases report.task?.filter (· ≠ j.taskId) with
  | some reported => exact .throw _ _
  | none =>
    refine .bind (.onChannel _) fun _ => .bind (.emit _) fun _ => ?_
    cases report.outcome with
    | error => exact .throw _ _
    | refused => exact .throw _ _
    | ok =>
      refine .bind (.onTable fun table table' h => ?_) fun _ =>
        .bind (.update fun _ _ h => h.withChannel _) fun _ => .bind (.enter _) fun _ => .emit _
      rw [TaskTable.outline_finish, TaskTable.outline_finish, h]

/-- Announces the task. -/
def announceJob (env : Surroundings) : Act Unit := do
  let j ← currentJob
  let bytes ← onChannel (Channel.sendAction env.provider .sendRequest (some (Json.Record.toJson j.request)))
  enter .requestSent
  emit (.send bytes)

/-- Under a key, announcements of the same length are sent as the same bytes. -/
lemma agree_announceJob (hp : env.provider.IsOblivious) (hkeyed : t.session.channel.IsKeyed) (h : t.Alike t') :
    Agree (announceJob env t) (announceJob env t') := by
  simp only [announceJob, Steps.bind_apply, currentJob_apply]
  obtain ⟨hj, hj'⟩ | ⟨j, j', hj, hj', halike⟩ := h.session.job_cases
  · rw [hj, hj']
    exact .error h
  · obtain ⟨request, hsize⟩ := halike
    have hsend : Channel.sendAction env.provider .sendRequest (some (Json.Record.toJson j.request)) t.session.channel =
        Channel.sendAction env.provider .sendRequest (some (Json.Record.toJson request)) t'.session.channel :=
      h.session.channel ▸ Channel.sendAction_of_isOblivious hp hkeyed (by decide) hsize
    simp only [hj, hj', onChannel_apply, staged_channel, staged_withChannel, hsend]
    cases Channel.sendAction env.provider .sendRequest (some (Json.Record.toJson request)) t'.session.channel with
    | error e channel =>
      exact .error ⟨(h.session.withChannel fun _ => channel).withJob ⟨request, hsize⟩, h.table, h.intents, h.crashed⟩
    | ok bytes channel =>
      have hchannel := (h.session.withChannel fun _ => channel).withJob ⟨request, hsize⟩
      exact .ok ⟨hchannel.withStage .requestSent, h.table, congrArg (· ++ [.send bytes]) h.intents, h.crashed⟩

/-- What was said before the announcement stands. -/
lemma mem_intents_announceJob {i : Intent} (hi : i ∈ t.intents) :
    i ∈ (conclude env (announceJob env t)).intents := by
  simp only [announceJob, Steps.bind_apply, currentJob_apply, onChannel_apply, staged_channel, staged_withChannel]
  cases t.session.job with
  | none => exact List.mem_append_left _ hi
  | some j =>
    simp only
    cases Channel.sendAction env.provider .sendRequest (some (Json.Record.toJson j.request)) t.session.channel with
    | error e channel => exact List.mem_append_left _ hi
    | ok bytes channel => exact List.mem_append_left _ hi

/-- What a sender makes of the answer to its offer depends on the contents of its task only without encryption. -/
lemma onVersionAck_alike (hp : env.provider.IsOblivious) (body : Option Json) (h : t.Alike t') :
    Exposed (conclude env (onVersionAck env body t)).intents ∨
      Agree (onVersionAck env body t) (onVersionAck env body t') := by
  obtain ⟨s, table, intents, used, crashed⟩ := t
  obtain ⟨s', table', intents', used', crashed'⟩ := t'
  obtain ⟨job', hjob⟩ := h.session
  obtain rfl : intents = intents' := h.intents
  cases hread : Channel.readBody (α := VersionOffer) .versionNegotiation body with
  | error e =>
    rw [onVersionAck_unread _ hread, onVersionAck_unread _ hread]
    exact .inr (.error h)
  | ok ack =>
    by_cases hversion : ack.version ∈ s.settings.versions ∧ ack.version ∈ ack.range
    · obtain ⟨hhere, hthere⟩ := hversion
      rw [onVersionAck_eq _ hread hhere hthere, onVersionAck_eq _ hread hhere hthere]
      simp only [Steps.bind_apply, onChannel_apply, staged_channel, staged_withChannel]
      cases hsettle : settle env.provider s.settings ack s.channel with
      | error e channel => exact .inr (.error ⟨⟨_, hjob⟩, h.table, rfl, h.crashed⟩)
      | ok u channel =>
        -- The announcement follows at once, so that an open one comes with the negotiation that exposes it.
        cases hmode : EncryptionMode.negotiate s.settings.encryption ack.publicValue?.isSome with
        | disabled =>
          exact .inl ⟨_, mem_intents_announceJob (List.mem_append_right _ List.mem_cons_self)⟩
        | enabled =>
          exact .inr (agree_announceJob hp (isKeyed_settle hmode hsettle) ⟨⟨_, hjob⟩, h.table, rfl, h.crashed⟩)
    · rw [onVersionAck_outside _ hread hversion, onVersionAck_outside _ hread hversion]
      exact .inr (.error h)

/-- What a sender makes of a frame depends on the contents of its task only without encryption. -/
lemma onInbound_alike (hp : env.provider.IsOblivious) (inbound : Inbound) (h : t.Alike t') :
    Exposed (conclude env (onInbound env inbound t)).intents ∨
      Agree (onInbound env inbound t) (onInbound env inbound t') := by
  have hstage : t.session.stage = t'.session.stage := h.session.stage
  obtain ⟨hs, body, rfl⟩ | ⟨hs, body, rfl⟩ | ⟨hs, sequence, body, rfl⟩ | hrefused :=
    onInbound_cases env t.session.stage inbound
  · rw [onInbound_versionAck hs, onInbound_versionAck (hstage ▸ hs)]
    exact onVersionAck_alike hp body h
  · rw [onInbound_requestAck hs, onInbound_requestAck (hstage ▸ hs)]
    exact .inr (uniform_onRequestAck h)
  · rw [onInbound_status hs, onInbound_status (hstage ▸ hs)]
    exact .inr (uniform_onStatus sequence body h)
  · rw [hrefused t rfl, hrefused t' hstage.symm]
    exact .inr (uniform_refuse inbound inbound h)

/-- Two tasks whose announcements have the same length are begun in the same way. -/
lemma agree_begin {task task' : SharedTask} (network : NetworkInfo) (hid : task.id = task'.id)
    (hsize : task.announcedSize? t.session.id t.session.settings.deviceName =
      task'.announcedSize? t.session.id t.session.settings.deviceName) (h : t.Alike t') :
    Agree (begin env task network t) (begin env task' network t') := by
  rw [begin, begin]
  cases network.servicePort? with
  | none => exact .error h
  | some port =>
    have hregister : ∀ table table' : TaskTable, table.outline = table'.outline →
        (table.register task env.now).map TaskTable.outline =
          (table'.register task' env.now).map TaskTable.outline := by
      intro table table' houtline
      rw [TaskTable.outline_register, TaskTable.outline_register, houtline, SharedTask.outline, SharedTask.outline, hid]
    obtain ⟨s, table, intents, used, crashed⟩ := t
    obtain ⟨s', table', intents', used', crashed'⟩ := t'
    obtain ⟨job', -⟩ := h.session
    rw [SharedTask.announcedSize?, SharedTask.announcedSize?] at hsize
    cases hn : task.totalSize? with
    | none =>
      obtain hn' : task'.totalSize? = none := by simpa [hn] using hsize.symm
      rw [hn']
      exact Uniform.crash h
    | some n =>
      obtain ⟨n', hn', hsize⟩ : ∃ n', task'.totalSize? = some n' ∧
          (task'.announce n' s.id s.settings.deviceName).size = (task.announce n s.id s.settings.deviceName).size := by
        simpa [hn] using hsize.symm
      rw [hn']
      have hjobs : Job.Alike ⟨task.id, task.announce n s.id s.settings.deviceName, network, port⟩
          ⟨task'.id, task'.announce n' s.id s.settings.deviceName, network, port⟩ := hid ▸ .intro _ hsize.symm
      exact Uniform.bind (.onTable hregister) (fun _ => .bind (.update fun _ _ hs => hs.withJob hjobs) fun _ =>
        .bind (.enter _) fun _ => .emit _) h

/-- An event keeps two turns alike, unless the sender agrees on no encryption. -/
theorem step_alike (hp : env.provider.IsOblivious) {event event' : Event} (h : t.Alike t')
    (hevent : Event.Alike t.session.id t.session.settings.deviceName event event') :
    Exposed (conclude env (step env event t)).intents ∨ Agree (step env event t) (step env event' t') := by
  have hrefused := uniform_refuse event event' h
  have hthrown := fun e e' => Uniform.throw (α := Unit) e e' h
  have hframe := fun bytes => Uniform.onChannel (Channel.receive env.provider bytes) h
  obtain ⟨s, table, intents, used, crashed⟩ := t
  obtain ⟨s', table', intents', used', crashed'⟩ := t'
  obtain ⟨job', hjob⟩ := h.session
  cases hevent with
  | begin network hid hsize =>
    obtain ⟨settings, id, stage, channel, job, peer, version, encryption⟩ := s
    cases stage with
    | idle => exact .inr (agree_begin network hid hsize h)
    | _ => exact .inr hrefused
  | same =>
    obtain ⟨settings, id, stage, channel, job, peer, version, encryption⟩ := s
    cases event with
    | begin task network =>
      cases stage with
      | idle => exact .inr (agree_begin network rfl rfl h)
      | _ => exact .inr hrefused
    | deviceInfoRead bytes =>
      cases stage with
      | advertising =>
        cases peer with
        | none => exact .inr (uniform_onDeviceInfo bytes h)
        | some info => exact .inr hrefused
      | _ => exact .inr hrefused
    | credentialsWritten =>
      cases stage with
      | advertising =>
        cases peer with
        | none => exact .inr hrefused
        | some info => exact .inr (uniform_onCredentialsWritten h)
      | _ => exact .inr hrefused
    | peerConnected port =>
      cases stage with
      | credentialsWritten => exact .inr (uniform_onPeerConnected port h)
      | _ => exact .inr hrefused
    | channelOpened =>
      cases stage with
      | networkJoinObserved => exact .inr (uniform_onChannelOpened h)
      | _ => exact .inr hrefused
    | serveStarted =>
      cases stage with
      | requestAcked => exact .inr (Uniform.enter .serving h)
      | _ => exact .inr hrefused
    | frame bytes =>
      rw [step_frame, step_frame]
      simp only [Steps.bind_apply]
      have hreceived := hframe bytes
      revert hreceived
      generalize (onChannel (Channel.receive env.provider bytes) : Act Inbound) _ = r
      generalize (onChannel (Channel.receive env.provider bytes) : Act Inbound) _ = r'
      intro hreceived
      cases hreceived with
      | ok hnext => exact onInbound_alike hp _ hnext
      | error hnext => exact .inr (.error hnext)
    | abort => cases stage <;> exact .inr hrefused
    | deviceInfoUnavailable reason => cases stage <;> exact .inr (hthrown _ _)
    | credentialWriteFailed reason => cases stage <;> exact .inr (hthrown _ _)
    | timedOut => cases stage <;> exact .inr (hthrown _ _)
    | channelClosed => cases stage <;> exact .inr (hthrown _ _)

/-! ### Turns and runs -/

/-- The intents that others get to see: what is written to the receiver, and what is sent to it. -/
def aired (intents : List Intent) : List Intent :=
  intents.filter fun
    | .writeCredentials _ | .send _ => true
    | _ => false

/-- Two senders are alike, or both have ended. -/
def Indistinct (s s' : Sender) : Prop := s.Alike s' ∨ s.stage.isTerminal = true ∧ s'.stage.isTerminal = true

/-- Two turns show the same, and leave senders and tables that differ at most in the contents of tasks. -/
structure Turn.Indistinct (t t' : Turn) : Prop where
  session : t.session.Indistinct t'.session
  table : t.table.outline = t'.table.outline
  aired : aired t.intents = aired t'.intents

variable {env : Surroundings} {s s' : Sender} {table table' : TaskTable} {t t' : Turn}

/-- Turns that are alike are indistinct. -/
lemma Turn.Alike.indistinct (h : t.Alike t') : t.Indistinct t' :=
  ⟨.inl h.session, h.table, congrArg Sender.aired h.intents⟩

/-- The end of a session is not seen by others. -/
lemma aired_finished (intents : List Intent) (result : Except Failure String) :
    aired (intents ++ [.finished result]) = aired intents := by
  simp [aired]

/-- Turns that are alike fail without telling. -/
lemma fail_alike (e e' : Failure) (h : t.Alike t') : (fail env e t).Indistinct (fail env e' t') := by
  refine ⟨.inr ⟨rfl, rfl⟩, ?_, ?_⟩
  · simp only [fail]
    obtain ⟨hj, hj'⟩ | ⟨j, j', hj, hj', halike⟩ := h.session.job_cases
    · rw [hj, hj']
      exact h.table
    · obtain ⟨request, -⟩ := halike
      have hfinish : (t.table.finish j.taskId .failed env.now).map TaskTable.outline =
          (t'.table.finish j.taskId .failed env.now).map TaskTable.outline := by
        rw [TaskTable.outline_finish, TaskTable.outline_finish, h.table]
      simp only [hj, hj']
      obtain ⟨te, hdone, hdone'⟩ | ⟨table, table', hdone, hdone', houtline⟩ := TaskTable.outline_cases hfinish
      · rw [hdone, hdone']
        exact h.table
      · rw [hdone, hdone']
        exact houtline
  · simp only [fail, aired_finished]
    exact congrArg aired h.intents

/-- Turns that are alike are given up without telling. -/
lemma giveUp_alike (h : t.Alike t') : (giveUp t).Indistinct (giveUp t') := by
  refine ⟨.inr ⟨rfl, rfl⟩, ?_, ?_⟩
  · simp only [giveUp]
    obtain ⟨hj, hj'⟩ | ⟨j, j', hj, hj', halike⟩ := h.session.job_cases
    · rw [hj, hj']
      exact h.table
    · obtain ⟨request, -⟩ := halike
      simp only [hj, hj', TaskTable.outline_remove, h.table]
  · simp only [giveUp, aired_finished]
    exact congrArg aired h.intents

/-- Steps that agree are concluded without telling. -/
lemma Agree.conclude {r r' : EStateM.Result Failure Turn Unit} (h : Agree r r') :
    (conclude env r).Indistinct (conclude env r') := by
  cases h with
  | ok h => exact h.indistinct
  | error h => exact fail_alike _ _ h

/-- No event tells two senders apart, unless they agree on no encryption. -/
lemma handle_indistinct (hp : env.provider.IsOblivious) {event event' : Event} (hs : s.Indistinct s')
    (htable : table.outline = table'.outline) (hevent : Event.Alike s.id s.settings.deviceName event event')
    (hhidden : ¬Exposed (handle env event s table).intents) :
    (handle env event s table).Indistinct (handle env event' s' table') := by
  cases hended : s.stage.isTerminal with
  | true =>
    have hended' : s'.stage.isTerminal = true := by
      obtain halike | ⟨-, hended'⟩ := hs
      · rw [← halike.stage, hended]
      · exact hended'
    rw [handle_of_isTerminal hended, handle_of_isTerminal hended']
    exact ⟨hs, htable, rfl⟩
  | false =>
    obtain halike | ⟨hended', -⟩ := hs
    · have hended' : s'.stage.isTerminal = false := by rw [← halike.stage, hended]
      have hstart : Turn.Alike { session := s, table } { session := s', table := table' } :=
        ⟨halike, htable, rfl, rfl⟩
      by_cases habort : event = .abort
      · subst habort
        cases hevent
        rw [handle, handle, if_neg (by simp [hended]), if_neg (by simp [hended'])]
        exact giveUp_alike hstart
      · have habort' : event' ≠ .abort := by
          cases hevent with
          | same => exact habort
          | begin => simp
        rw [handle_eq hended habort] at hhidden ⊢
        rw [handle_eq hended' habort']
        obtain hexposed | hagree := step_alike hp hstart hevent
        · exact absurd hexposed hhidden
        · exact hagree.conclude
    · rw [hended] at hended'
      cases hended'

end Sender

/-! ### Desks -/

namespace Desk

open TaskTable (Call)

/-- What can happen at a desk. -/
inductive Move where
  /-- The sender is given an event. -/
  | event (env : Surroundings) (event : Sender.Event)
  /-- Another client calls the table. -/
  | call (call : Call)

/-- What a move makes of the desk. -/
def next (d : Desk) : Move → Desk
  | .event env event => d.senderDoes env event
  | .call call => d.clientDoes call

/-- What the sender says at a move. -/
def saidAt (d : Desk) : Move → List Sender.Intent
  | .event env event => (d.sender.handle env event d.table).intents
  | .call _ => []

/-- What the sender says at each of some moves. -/
def told (d : Desk) : List Move → List (List Sender.Intent)
  | [] => []
  | m :: ms => d.saidAt m :: (d.next m).told ms

/-- What comes of sealing at the move depends on no more of a plaintext than its length. -/
def Move.IsOblivious : Move → Prop
  | .event env _ => env.provider.IsOblivious
  | .call _ => True

/-- Two moves are the same, up to the contents of a task whose announcements have the same length. -/
inductive Move.Alike (id deviceName : String) : Move → Move → Prop
  | event (env : Surroundings) {event event' : Sender.Event} :
      Sender.Event.Alike id deviceName event event' → Alike id deviceName (.event env event) (.event env event')
  | call (call : Call) : Alike id deviceName (.call call) (.call call)

variable {d d' : Desk} {m m' : Move} {ms ms' : List Move} {id deviceName : String}

/-- The senders show the same, and the tables differ at most in the contents of tasks. -/
structure Indistinct (id deviceName : String) (d d' : Desk) : Prop where
  sender : d.sender.Indistinct d'.sender
  table : d.table.outline = d'.table.outline
  id : d.sender.id = id
  deviceName : d.sender.settings.deviceName = deviceName

/-- A move shows the same at both desks, and no more than that. -/
lemma Indistinct.next (h : Indistinct id deviceName d d') (hm : m.Alike id deviceName m') (hp : m.IsOblivious)
    (hhidden : ¬Sender.Exposed (d.saidAt m)) :
    Sender.aired (d.saidAt m) = Sender.aired (d'.saidAt m') ∧ Indistinct id deviceName (d.next m) (d'.next m') := by
  cases hm with
  | event env hevent =>
    obtain ⟨hsender, htable, rfl, rfl⟩ := h
    have hturn := Sender.handle_indistinct hp hsender htable hevent hhidden
    exact ⟨hturn.aired, hturn.session, hturn.table, Sender.id_handle, congrArg _ Sender.settings_handle⟩
  | call call =>
    refine ⟨rfl, h.sender, ?_, h.id, h.deviceName⟩
    show (call.run d.table).2.outline = (call.run d'.table).2.outline
    rw [TaskTable.outline_run, TaskTable.outline_run, h.table]

/-- Two desks that are indistinct air the same, if no encryption is ever exposed as missing. -/
lemma Indistinct.aired_told (h : Indistinct id deviceName d d')
    (hms : List.Forall₂ (Move.Alike id deviceName) ms ms') (hp : ∀ m ∈ ms, m.IsOblivious)
    (hhidden : ∀ said ∈ d.told ms, ¬Sender.Exposed said) :
    (d.told ms).map Sender.aired = (d'.told ms').map Sender.aired := by
  induction hms generalizing d d' with
  | nil => rfl
  | cons hm hms ih =>
    simp only [told, List.forall_mem_cons] at hp hhidden
    obtain ⟨haired, hnext⟩ := h.next hm hp.1 hhidden.1
    simp only [told, List.map_cons, haired, ih hnext hp.2 hhidden.2]

/-- **Contents stay hidden.** Take two runs of a sender with the same settings, name and table, with the same moves
of other clients, and with the same events up to the contents of the tasks that are begun: these have the same names,
and announcements of the same length. If what comes of sealing depends on no more of a plaintext than its length, and
the sender never agrees on no encryption, then it writes and sends the same bytes in both runs, at every move. -/
theorem contents_stay_hidden (settings : Settings) (id : String) (table : TaskTable)
    (hms : List.Forall₂ (Move.Alike id settings.deviceName) ms ms') (hp : ∀ m ∈ ms, m.IsOblivious)
    (hhidden : ∀ said ∈ (start settings id table).told ms, ¬Sender.Exposed said) :
    ((start settings id table).told ms).map Sender.aired = ((start settings id table).told ms').map Sender.aired :=
  Indistinct.aired_told ⟨.inl (Sender.alike_start settings id), rfl, rfl, rfl⟩ hms hp hhidden

/-! ### Two tasks that look the same -/

open Handshake

/-- A provider that shows nothing of what it seals. -/
def blindProvider : Provider :=
  { Provider.ideal [] with encrypt := fun _ _ _ plaintext => .ok (List.replicate plaintext.length 0) }

/-- The blind provider tells no more of a text than its length. -/
lemma isOblivious_blindProvider : blindProvider.IsOblivious := by
  intro key nonce header x y hlength
  simp [blindProvider, hlength]

/-- The blind provider cooperates. -/
lemma cooperates_blindProvider : blindProvider.Cooperates where
  agrees := (cooperates_ideal []).agrees
  encrypts _ _ _ _ := ⟨_, rfl⟩

/-- Surroundings with the blind provider. -/
def blindSurroundings : Surroundings :=
  { idealSurroundings [1] with provider := blindProvider }

/-- The settings of the sender. -/
def leftSettings : Settings := { deviceName := "left" }

/-- The settings of the receiver. -/
def rightSettings : Settings := { deviceName := "right", maxVersion := 3 }

/-- What the receiver tells of itself. -/
def description : DeviceInfo := Receiver.deviceInfo rightSettings none

/-- A session up to the announcement of a task, in which the receiver answers the offer with the given frame. -/
def announcing (task : SharedTask) (answer : Bytes) : List Move :=
  [.event blindSurroundings (.begin task (.plain "ssid" "psk" "mac" 8443)),
    .event blindSurroundings (.deviceInfoRead (Json.Record.encode description)),
    .event blindSurroundings .credentialsWritten,
    .event blindSurroundings (.peerConnected 8443),
    .event blindSurroundings .channelOpened,
    .event blindSurroundings (.frame answer)]

/-- A task with notes. -/
def notes : SharedTask := { id := "t", files := [.ofBytes "notes.txt" "text/plain" [1, 2, 3]] }

/-- A task with a photograph. -/
def photograph : SharedTask := { id := "t", files := [.ofBytes "photo.jpg" "image/jpeg" [4, 5, 6, 7]] }

/-- What was said at a desk, event by event. -/
lemma told_event {env : Surroundings} {event : Sender.Event} {s s' : Sender} {table table' : TaskTable}
    {past : List Note} {intents : List Sender.Intent} {used : Bool} {said : List (List Sender.Intent)}
    (h : s.handle env event table = ⟨s', table', intents, used, false⟩)
    (hnext : told ⟨s', table', past ++ intents.map .said⟩ ms = said) :
    told ⟨s, table, past⟩ (.event env event :: ms) = intents :: said := by
  simp only [told, saidAt, next, senderDoes, h, hnext]

/-- Announcements of the notes and of the photograph have the same length. -/
lemma announcedSize?_notes :
    notes.announcedSize? "s" "left" = photograph.announcedSize? "s" "left" := by
  decide +kernel

/-- The share of the sender in the encryption. -/
def senderShare : CryptoContext := { role := .sender, keyPair := some ⟨[1], [1]⟩ }

/-- The work of the sender of the notes. -/
def notesJob : Sender.Job := ⟨notes.id, notes.announce 3 "s" "left", .plain "ssid" "psk" "mac" 8443, 8443⟩

/-- The sender of the notes. -/
def notesSender (stage : Sender.Stage) (peer : Option DeviceInfo) (channel : Channel) : Sender :=
  { settings := leftSettings
    id := "s"
    stage
    channel
    job := some notesJob
    peer }

/-- The receiver can answer so that the sender announces its task under a key. -/
lemma exists_told_announcing (table : TaskTable) (hnew : table.find? notes.id = none) :
    ∃ answer written offer request, (start leftSettings "s" table).told (announcing notes answer) =
      [[.readDeviceInfo], [.writeCredentials written], [.awaitPeer 8443], [], [.send offer],
        [.negotiated 1 .enabled, .send request]] := by
  have hshare : Sender.share blindSurroundings leftSettings = .ok (some senderShare) := rfl
  obtain ⟨ack, key?, hsettled⟩ : ∃ ack key?, Settled blindProvider leftSettings
      rightSettings (some senderShare) blindSurroundings ack key? :=
    exists_settled cooperates_blindProvider rfl rfl hshare fun _ => ⟨_, rfl⟩
  obtain ⟨table', hregister, -⟩ := TaskTable.exists_register hnew 0
  let written := Json.Record.encode { NetworkInfo.plain "ssid" "psk" "mac" 8443 with id := some "s" }
  have hbegun : Sender.handle blindSurroundings (.begin notes (.plain "ssid" "psk" "mac" 8443))
      { settings := leftSettings, id := "s" } table =
        ⟨notesSender .advertising none (.start .sender), table', [.readDeviceInfo], false, false⟩ :=
    Sender.handle_of_answers (.began rfl rfl rfl hregister) (by exact nofun)
  have hdescribed : Sender.handle blindSurroundings (.deviceInfoRead (Json.Record.encode description))
      (notesSender .advertising none (.start .sender)) table' =
        ⟨notesSender .advertising (some description) (.start .sender), table', [.writeCredentials written],
          false, false⟩ :=
    Sender.handle_of_answers (.described rfl rfl (DeviceInfo.decode_encode description) rfl rfl) (by exact nofun)
  have hwritten : Sender.handle blindSurroundings .credentialsWritten
      (notesSender .advertising (some description) (.start .sender)) table' =
        ⟨notesSender .credentialsWritten (some description) (.start .sender), table', [.awaitPeer 8443], false,
          false⟩ :=
    Sender.handle_of_answers (.awaits (j := notesJob) rfl rfl rfl) (by exact nofun)
  have hjoined : Sender.handle blindSurroundings (.peerConnected 8443)
      (notesSender .credentialsWritten (some description) (.start .sender)) table' =
        ⟨notesSender .networkJoinObserved (some description) (.start .sender), table', [], false, false⟩ :=
    Sender.handle_of_answers (.joined (j := notesJob) rfl rfl) (by exact nofun)
  have hoffered : Sender.handle blindSurroundings .channelOpened
      (notesSender .networkJoinObserved (some description) (.start .sender)) table' =
        ⟨notesSender .handshakeConnected (some description) (offering (some senderShare)), table',
          [.send (offerFrame leftSettings (some senderShare))], true, false⟩ :=
    handle_channelOpened table' rfl rfl hshare
  obtain ⟨request, -, hannounced⟩ := handle_answer (e := blindSurroundings) (j := notesJob)
    (s := notesSender .handshakeConnected (some description) (offering (some senderShare))) table'
    cooperates_blindProvider rfl rfl rfl rfl hsettled (by decide)
  have hagreed : bestVersion (notesSender .handshakeConnected (some description)
      (offering (some senderShare))).settings rightSettings = 1 := by decide
  refine ⟨answerFrame ack, written, offerFrame leftSettings (some senderShare), request, ?_⟩
  refine told_event hbegun ?_
  refine told_event hdescribed ?_
  refine told_event hwritten ?_
  refine told_event hjoined ?_
  refine told_event hoffered ?_
  rw [hagreed] at hannounced
  exact told_event hannounced rfl

/-- Notes and a photograph are announced by the same bytes. -/
theorem contents_stay_hidden_photograph : notes ≠ photograph ∧
    ∃ answer request,
      [.negotiated 1 .enabled, .send request] ∈
        (start leftSettings "s" { grace := 0, lifetime := 0 }).told (announcing notes answer) ∧
      ((start leftSettings "s" { grace := 0, lifetime := 0 }).told (announcing notes answer)).map Sender.aired =
        ((start leftSettings "s" { grace := 0, lifetime := 0 }).told (announcing photograph answer)).map
          Sender.aired := by
  obtain ⟨answer, written, offer, request, hsaid⟩ := exists_told_announcing { grace := 0, lifetime := 0 } rfl
  have halike : List.Forall₂ (Move.Alike "s" leftSettings.deviceName) (announcing notes answer)
      (announcing photograph answer) :=
    .cons (.event _ (.begin _ rfl announcedSize?_notes))
      (List.forall₂_same.2 (by simp [Move.Alike.event, Sender.Event.Alike.same]))
  have hoblivious : ∀ m ∈ announcing notes answer, m.IsOblivious := by
    simp [announcing, Move.IsOblivious, blindSurroundings, isOblivious_blindProvider]
  have hhidden : ∀ said ∈ (start leftSettings "s" { grace := 0, lifetime := 0 }).told (announcing notes answer),
      ¬Sender.Exposed said := by
    rw [hsaid]
    simp [Sender.Exposed]
  refine ⟨by decide, answer, request, ?_, contents_stay_hidden leftSettings "s" _ halike hoblivious hhidden⟩
  rw [hsaid]
  simp

end Desk

end DirectShare
