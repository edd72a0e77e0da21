import Mathlib
import DirectShare.Proofs.Session.Lifecycle
import DirectShare.Proofs.Session.Script

/-!
# The script of senders

Whatever a sender is given, in whatever order, what it says is the start of one script, or such a start
followed by the failure with which it ends. The channel numbers its two actions, and the stage tells how far
the script has come.

A `Sender.Course` is a sender with all that it has said, each in answer to what it was given, and
`Sender.script` lists what it says about a job. `Sender.Spoken` says that the script has come as far as the
stage tells. Every event keeps that (`Sender.Spoken.next`), and `Sender.follows_script` reads from it what was
said and when the sender has ended.
-/

namespace DirectShare.Sender

/-- What a sender is given at one moment. The table of tasks may be any each time. -/
structure Moment where
  env : Surroundings
  event : Event
  table : TaskTable

/-- A frame with the given header has arrived. -/
def Moment.Brings (m : Moment) (kind : Frame.Kind) (sequence : UInt32) (action : Action) : Prop :=
  ∃ bytes, m.event = .frame bytes ∧ Frame.HasHeader kind sequence action bytes

/-- A sender with all that it has said, and what each of that answers. -/
structure Course where
  sender : Sender
  said : List (Moment × Intent) := []

namespace Course

/-- One more event happens. -/
def next (c : Course) (m : Moment) : Course :=
  let t := c.sender.handle m.env m.event m.table
  { sender := t.session, said := c.said ++ t.intents.map fun i => (m, i) }

/-- Events happen one after the other. -/
def run (c : Course) (ms : List Moment) : Course := ms.foldl next c

end Course

/-- What a sender says about a job, from the registration of the task to the end. -/
def script (settings : Settings) (name : String) (j : Job) : List (Moment → Intent → Prop) :=
  [fun m i => i = .readDeviceInfo ∧ ∃ task totalSize, m.event = .begin task j.network ∧ task.id = j.taskId ∧
      j.network.servicePort? = some j.port ∧ task.totalSize? = some totalSize ∧
      j.request = task.announce totalSize name settings.deviceName,
    fun m i => ∃ bytes written, m.event = .deviceInfoRead bytes ∧ i = .writeCredentials written,
    fun m i => m.event = .credentialsWritten ∧ i = .awaitPeer j.port,
    fun m i => m.event = .channelOpened ∧ ∃ crypto bytes, i = .send bytes ∧
      Frame.Carries m.env.provider .action 0 .versionNegotiation (Json.Record.toJson (offer settings crypto)) bytes,
    fun m i => m.Brings .ack 0 .versionNegotiation ∧ ∃ version mode, i = .negotiated version mode,
    fun m i => m.Brings .ack 0 .versionNegotiation ∧ ∃ bytes, i = .send bytes ∧
      Frame.Carries m.env.provider .action 1 .sendRequest (Json.Record.toJson j.request) bytes,
    fun m i => m.Brings .ack 1 .sendRequest ∧ i = .serveAuthorized j.taskId,
    fun m i => ∃ sequence, m.Brings .action sequence .status ∧
      i = .send (Frame.encode ⟨.ack, sequence, .status, .empty⟩),
    fun m i => (∃ sequence, m.Brings .action sequence .status) ∧ i = .finished (.ok j.taskId)]

/-- The number of lines that a sender has said before its end. -/
def linesSaid (s : Sender) : Nat :=
  match s.stage with
  | .idle => 0
  | .advertising => if s.peer.isNone then 1 else 2
  | .credentialsWritten | .networkJoinObserved => 3
  | .handshakeConnected => 4
  | .requestSent => 6
  | _ => 7

variable {settings : Settings} {name : String} {j : Job} {c : Course} {s : Sender} {env : Surroundings}
  {event : Event} {table : TaskTable}

/-- No event changes the id of a sender. -/
lemma id_handle : (handle env event s table).session.id = s.id := by
  cases hs : s.stage.isTerminal with
  | true => rw [handle_of_isTerminal hs]
  | false =>
    have hturn := handle_answers env table hs event
    revert hturn
    generalize handle env event s table = t
    intro hturn
    cases hturn <;> rfl

/-- Settling on the encryption uses no number. -/
lemma numbers_settle {p : Provider} {ack : VersionOffer} {ch ch' : Channel} {u : Unit}
    (h : settle p settings ack ch = .ok u ch') :
    ch'.nextSequence = ch.nextSequence ∧ ch'.pending = ch.pending := by
  obtain ⟨-, rfl⟩ | ⟨-, -, -, -, -, rfl⟩ := settle_ok h <;> exact ⟨rfl, rfl⟩

/-- The session goes on, and the script has come as far as its stage tells. -/
structure Midway (settings : Settings) (name : String) (j : Job) (c : Course) : Prop where
  opened : c.sender.stage.isTerminal = false
  /-- The job is that of the script. -/
  job : ∀ j', c.sender.job = some j' → j' = j
  /-- Before the job nothing is known of the receiver. -/
  unknown : c.sender.stage = .idle → c.sender.peer = none
  /-- The version negotiation is the first action of the channel. -/
  offered : c.sender.stage = .handshakeConnected →
    c.sender.channel.nextSequence = 1 ∧ c.sender.channel.pending = some (0, .versionNegotiation)
  /-- The announcement is the second one. -/
  announced : c.sender.stage = .requestSent → c.sender.channel.pending = some (1, .sendRequest)
  said : List.Forall₂ Fits c.said ((script settings name j).take (linesSaid c.sender))

/-- What was said goes with the stage. -/
inductive Spoken (settings : Settings) (name : String) (c : Course) : Prop
  /-- The session goes on. -/
  | midway {j : Job} : Midway settings name j c → Spoken settings name c
  /-- The script was said to its end. -/
  | completed {j : Job} : c.sender.stage = .completed → Follows (script settings name j) c.said →
      ClosesWith (script settings name j) c.said (.finished (.ok j.taskId)) → Spoken settings name c
  /-- The session has failed. -/
  | failed {j : Job} {e : Failure} : c.sender.stage = .failed e →
      ClosesWith (script settings name j) c.said (.finished (.error e)) → Spoken settings name c

/-- Any job, for a script that has not begun. -/
instance : Inhabited Job where
  default :=
    { taskId := "", request := SharedTask.announce { id := "" } 0 "" "", network := .plain "" "" "" 0, port := 0 }

/-- A sender that nothing has happened to has followed its script. -/
lemma spoken_start (settings : Settings) (name : String) :
    Spoken settings name { sender := { settings, id := name } } :=
  .midway (j := default) ⟨rfl, (by simp), fun _ => rfl, (by simp), (by simp), .nil⟩

/-- What a sender says next extends the script by as many lines. -/
lemma Midway.adds (h : Midway settings name j c) {n : Nat} (hn : linesSaid c.sender = n) {m : Moment}
    {intents : List Intent} (k : Nat)
    (hnext : List.Forall₂ (fun i line => line m i) intents (((script settings name j).drop n).take k)) :
    List.Forall₂ Fits (c.said ++ intents.map fun i => (m, i)) ((script settings name j).take (n + k)) := by
  rw [List.take_add]
  exact forall₂_fits_append (hn ▸ h.said) hnext

/-- A sender that ends closes its script. -/
lemma Midway.closes (h : Midway settings name j c) {n : Nat} (hn : linesSaid c.sender = n) {m : Moment}
    {intents : List Intent} (k : Nat) (hk : n + k ≤ 8)
    (hnext : List.Forall₂ (fun i line => line m i) intents (((script settings name j).drop n).take k))
    (result : Except Failure String) :
    ClosesWith (script settings name j) (c.said ++ (intents ++ [Intent.finished result]).map fun i => (m, i))
      (.finished result) := by
  have hlines : (script settings name j).length - 1 = 8 := rfl
  refine ⟨c.said ++ intents.map fun i => (m, i), m, by simp, n + k, ?_⟩
  rw [List.dropLast_eq_take, List.take_take, hlines, min_eq_left hk]
  exact h.adds hn k hnext

/-- A sender says at most eight lines before its end. -/
lemma linesSaid_le (s : Sender) : linesSaid s ≤ 8 := by
  rw [linesSaid]
  split
  any_goals omega
  split <;> omega

/-- A sender that fails closes its script with the failure. -/
lemma Midway.fails (h : Midway settings name j c) (m : Moment) (e : Failure) :
    ClosesWith (script settings name j) (c.said ++ [(m, Intent.finished (.error e))]) (.finished (.error e)) :=
  h.closes rfl 0 (linesSaid_le c.sender) .nil (.error e)

/-- A sender that has ended says nothing more. -/
lemma Course.next_of_isTerminal (hs : c.sender.stage.isTerminal = true) (m : Moment) : c.next m = c := by
  simp [Course.next, handle_of_isTerminal hs]

/-- Every answer of a sender that goes on keeps it in its script. -/
lemma Midway.answers {t : Turn} (h : Midway settings name j c) (hcoherent : c.sender.Coherent)
    (hsettings : c.sender.settings = settings) (hname : c.sender.id = name)
    (hturn : Answers env c.sender table event t) :
    Spoken settings name ⟨t.session, c.said ++ t.intents.map fun i => (⟨env, event, table⟩, i)⟩ := by
  -- Each answer says the next lines of its stage. The channel is read only where a number is asked for.
  cases hturn with
  | @began task network port totalSize table' hidle hport hsize hregister =>
    have hn : linesSaid c.sender = 0 := by simp [linesSaid, hidle]
    have hsilent : c.said = [] := by simpa [hn] using h.said
    subst hsettings hname
    have hlines : linesSaid { c.sender with stage := .advertising } = 1 := by simp [linesSaid, h.unknown hidle]
    -- The script is about the job that is taken on here, whatever it was about before.
    refine .midway ⟨rfl, fun j' hj' => (Option.some.inj hj').symm, by simp, by simp, by simp, ?_⟩
    rw [hsilent]
    exact hlines ▸ .cons ⟨rfl, task, totalSize, rfl, rfl, hport, hsize, rfl⟩ .nil
  | crashed =>
    rw [List.map_nil, List.append_nil]
    exact .midway h
  | @described bytes info j' written used hadvertising hpeer hdecode hjob hwritten =>
    have hn : linesSaid c.sender = 1 := by simp [linesSaid, hadvertising, hpeer]
    have hlines : linesSaid { c.sender with peer := some info } = 2 := by simp [linesSaid, hadvertising]
    exact .midway ⟨h.opened, h.job, by simp [hadvertising], by simp [hadvertising], by simp [hadvertising],
      hlines ▸ h.adds hn 1 (.cons ⟨bytes, _, rfl, rfl⟩ .nil)⟩
  | awaits hadvertising hpeer hjob =>
    have hn : linesSaid c.sender = 2 := by simp [linesSaid, hadvertising, hpeer]
    obtain rfl := h.job _ hjob
    exact .midway ⟨rfl, h.job, by simp, by simp, by simp, h.adds hn 1 (.cons ⟨rfl, rfl⟩ .nil)⟩
  | joined hwritten hjob =>
    have hn : linesSaid c.sender = 3 := by simp [linesSaid, hwritten]
    exact .midway ⟨rfl, h.job, by simp, by simp, by simp, h.adds hn 0 .nil⟩
  | @offered crypto bytes channel hjoined hshare hsend =>
    have hn : linesSaid c.sender = 3 := by simp [linesSaid, hjoined]
    have hfresh : (holding c.sender.channel crypto).nextSequence = 0 := by
      rw [hcoherent.channel (by rw [hjoined]; trivial)]
      cases crypto <;> rfl
    obtain ⟨hcarries, hnext, hpending, -⟩ := Channel.carries_sendAction hsend
    rw [hfresh] at hcarries hnext hpending
    rw [hsettings] at hcarries
    exact .midway ⟨rfl, h.job, by simp, fun _ => ⟨hnext, hpending⟩, by simp,
      h.adds hn 1 (.cons ⟨rfl, crypto, bytes, rfl, hcarries⟩ .nil)⟩
  | announced hconnected hreceive hread hhere hthere hsettle hjob hsend =>
    have hn : linesSaid c.sender = 4 := by simp [linesSaid, hconnected]
    obtain rfl := h.job _ hjob
    obtain ⟨hone, hpending⟩ := h.offered hconnected
    obtain ⟨sequence, hheader, hwaited, hkept, -⟩ := Channel.receive_awaited hreceive
    -- Nothing but the version negotiation waits for an acknowledgement.
    obtain rfl : 0 = sequence := by simpa [hpending] using hwaited
    obtain ⟨hcarries, -, hpending', -⟩ := Channel.carries_sendAction hsend
    rw [(numbers_settle hsettle).1, hkept, hone] at hcarries hpending'
    exact .midway ⟨rfl, h.job, by simp, by simp, fun _ => hpending',
      h.adds hn 2 (.cons ⟨⟨_, rfl, hheader⟩, _, _, rfl⟩ (.cons ⟨⟨_, rfl, hheader⟩, _, rfl, hcarries⟩ .nil))⟩
  | unannounced channel hconnected hreceive hread hhere hthere hsettle hfault =>
    have hn : linesSaid c.sender = 4 := by simp [linesSaid, hconnected]
    obtain ⟨sequence, hheader, hwaited, -⟩ := Channel.receive_awaited hreceive
    obtain rfl : 0 = sequence := by simpa [(h.offered hconnected).2] using hwaited
    exact .failed rfl (h.closes hn 1 (by decide) (.cons ⟨⟨_, rfl, hheader⟩, _, _, rfl⟩ .nil) _)
  | authorized hsent hreceive hjob hrequest =>
    have hn : linesSaid c.sender = 6 := by simp [linesSaid, hsent]
    obtain rfl := h.job _ hjob
    obtain ⟨sequence, hheader, hwaited, -⟩ := Channel.receive_awaited hreceive
    obtain rfl : 1 = sequence := by simpa [h.announced hsent] using hwaited
    exact .midway ⟨rfl, h.job, by simp, by simp, by simp, h.adds hn 1 (.cons ⟨⟨_, rfl, hheader⟩, rfl⟩ .nil)⟩
  | serves hacked =>
    have hn : linesSaid c.sender = 7 := by simp [linesSaid, hacked]
    exact .midway ⟨rfl, h.job, by simp, by simp, by simp, h.adds hn 0 .nil⟩
  | completed hstage hreceive hread hjob htask hack hok hfinish =>
    have hn : linesSaid c.sender = 7 := by obtain hstage | hstage := hstage <;> simp [linesSaid, hstage]
    obtain rfl := h.job _ hjob
    obtain ⟨hheader, -⟩ := Channel.receive_action hreceive
    obtain ⟨rfl, -⟩ := Channel.sendAck_none hack
    have hbrings : Moment.Brings ⟨env, _, table⟩ .action _ .status := ⟨_, rfl, hheader⟩
    exact .completed rfl ⟨_, h.adds hn 2 (.cons ⟨_, hbrings, rfl⟩ (.cons ⟨⟨_, hbrings⟩, rfl⟩ .nil))⟩
      (h.closes hn 1 (by decide) (.cons ⟨_, hbrings, rfl⟩ .nil) _)
  | reported hstage hreceive hread hjob htask hack hcause =>
    have hn : linesSaid c.sender = 7 := by obtain hstage | hstage := hstage <;> simp [linesSaid, hstage]
    obtain ⟨hheader, -⟩ := Channel.receive_action hreceive
    obtain ⟨rfl, -⟩ := Channel.sendAck_none hack
    exact .failed rfl (h.closes hn 1 (by decide) (.cons ⟨_, ⟨_, rfl, hheader⟩, rfl⟩ .nil) _)
  | failed channel used hfault => exact .failed rfl (h.fails _ _)
  | gaveUp => exact .failed rfl (h.fails _ _)

/-- Every event keeps the sender in its script. -/
theorem Spoken.next (h : Spoken settings name c) (hcoherent : c.sender.Coherent)
    (hsettings : c.sender.settings = settings) (hname : c.sender.id = name) (m : Moment) :
    Spoken settings name (c.next m) := by
  cases h with
  | midway h => exact h.answers hcoherent hsettings hname (handle_answers m.env m.table h.opened m.event)
  | completed hstage hsaid hcloses =>
    rw [Course.next_of_isTerminal (by simp [hstage, Stage.isTerminal])]
    exact .completed hstage hsaid hcloses
  | failed hstage hcloses =>
    rw [Course.next_of_isTerminal (by simp [hstage, Stage.isTerminal])]
    exact .failed hstage hcloses

/-! ### Whole sessions -/

/-- A sender that events lead to has the id that it was given. -/
lemma Reaches.id (h : Reaches settings name s) : s.id = name := by
  induction h with
  | start => rfl
  | handle env event table _ ih => rw [id_handle, ih]

/-- A sender follows its script in every run. -/
lemma spoken_run (settings : Settings) (name : String) (ms : List Moment) :
    Reaches settings name (Course.run { sender := { settings, id := name } } ms).sender ∧
      Spoken settings name (Course.run { sender := { settings, id := name } } ms) := by
  -- That the sender is coherent is kept along with what it has said.
  induction ms using List.reverseRecOn with
  | nil => exact ⟨.start, spoken_start settings name⟩
  | append_singleton ms m ih =>
    obtain ⟨hreaches, hspoken⟩ := ih
    rw [Course.run, List.foldl_append]
    exact ⟨hreaches.handle m.env m.event m.table, hspoken.next hreaches.coherent hreaches.settings hreaches.id m⟩

/-- No line but the last says that the sender has finished. -/
lemma not_finished_of_mem_script {m : Moment} {result : Except Failure String}
    {line : Moment → Intent → Prop} (hline : line ∈ (script settings name j).dropLast) :
    ¬line m (.finished result) := by
  simp only [script, List.dropLast_cons_cons, List.dropLast_singleton, List.mem_cons, List.not_mem_nil,
    or_false] at hline
  obtain rfl | rfl | rfl | rfl | rfl | rfl | rfl | rfl := hline <;> simp

/-- A sender that goes on has not said that it has finished. -/
lemma Midway.not_finished (h : Midway settings name j c) (m : Moment) (result : Except Failure String) :
    (m, .finished result) ∉ c.said := by
  have hlines : (script settings name j).length - 1 = 8 := rfl
  have hfront : Follows (script settings name j).dropLast c.said :=
    ⟨linesSaid c.sender, by
      rw [List.dropLast_eq_take, List.take_take, hlines, min_eq_left (linesSaid_le _)]
      exact h.said⟩
  exact hfront.notMem fun line hline => not_finished_of_mem_script hline

/-- The stage in which a session has ended. -/
def endedStage : Except Failure String → Stage
  | .ok _ => .completed
  | .error e => .failed e

/-- A sender that has said that it has finished is in the stage of that end. -/
lemma Spoken.stage_eq (h : Spoken settings name c) {m : Moment} {result : Except Failure String}
    (hmem : (m, .finished result) ∈ c.said) : c.sender.stage = endedStage result := by
  cases h with
  | midway h => exact absurd hmem (h.not_finished m result)
  | completed hstage hsaid hcloses =>
    cases hcloses.eq_of_mem (fun line hline => not_finished_of_mem_script hline) hmem
    exact hstage
  | failed hstage hcloses =>
    cases hcloses.eq_of_mem (fun line hline => not_finished_of_mem_script hline) hmem
    exact hstage

/-- A sender that has ended has said so. -/
lemma Spoken.exists_finished (h : Spoken settings name c) (hs : c.sender.stage.isTerminal = true) :
    ∃ m result, (m, .finished result) ∈ c.said := by
  cases h with
  | midway h =>
    rw [h.opened] at hs
    cases hs
  | completed hstage hsaid hcloses =>
    obtain ⟨m, hmem⟩ := hcloses.exists_mem
    exact ⟨m, _, hmem⟩
  | failed hstage hcloses =>
    obtain ⟨m, hmem⟩ := hcloses.exists_mem
    exact ⟨m, _, hmem⟩

/-- A sender that has ended has said so. -/
lemma Spoken.exists_stage_eq (h : Spoken settings name c) (hs : c.sender.stage.isTerminal = true) :
    ∃ m result, (m, .finished result) ∈ c.said ∧ c.sender.stage = endedStage result := by
  obtain ⟨m, result, hmem⟩ := h.exists_finished hs
  exact ⟨m, result, hmem, h.stage_eq hmem⟩

/-- A sender has ended exactly when it has said so. -/
lemma Spoken.isTerminal_iff (h : Spoken settings name c) :
    c.sender.stage.isTerminal = true ↔ ∃ m result, (m, .finished result) ∈ c.said := by
  refine ⟨h.exists_finished, ?_⟩
  rintro ⟨m, result, hmem⟩
  rw [h.stage_eq hmem]
  cases result <;> rfl

/-- A sender has completed exactly when it has said so. -/
lemma Spoken.completed_iff (h : Spoken settings name c) :
    c.sender.stage = .completed ↔ ∃ m id, (m, .finished (.ok id)) ∈ c.said := by
  refine ⟨fun hs => ?_, fun ⟨_, _, hmem⟩ => h.stage_eq hmem⟩
  obtain ⟨m, result, hmem, hstage⟩ := h.exists_stage_eq (by rw [hs]; rfl)
  cases result with
  | ok id => exact ⟨m, id, hmem⟩
  | error e => cases hs.symm.trans hstage

/-- A sender has failed exactly when it has said so. -/
lemma Spoken.failed_iff (h : Spoken settings name c) (e : Failure) :
    c.sender.stage = .failed e ↔ ∃ m, (m, .finished (.error e)) ∈ c.said := by
  refine ⟨fun hs => ?_, fun ⟨_, hmem⟩ => h.stage_eq hmem⟩
  obtain ⟨m, result, hmem, hstage⟩ := h.exists_stage_eq (by rw [hs]; rfl)
  cases result with
  | ok id => cases hs.symm.trans hstage
  | error e' =>
    cases hs.symm.trans hstage
    exact ⟨m, hmem⟩

/-- What a sender says is a start of the script, which a failure may close. -/
lemma Spoken.follows (h : Spoken settings name c) :
    ∃ j, Follows (script settings name j) c.said ∨
      ∃ e, ClosesWith (script settings name j) c.said (.finished (.error e)) := by
  cases h with
  | midway h => exact ⟨_, .inl ⟨_, h.said⟩⟩
  | completed hstage hsaid hcloses => exact ⟨_, .inl hsaid⟩
  | failed hstage hcloses => exact ⟨_, .inr ⟨_, hcloses⟩⟩

/-- **The script of senders.** Whatever a sender is given, in whatever order, with whatever provider and
table of tasks each time: what it says is the start of one script, about the job that it took on at first, or
a start without the last line and then one failure. The session has ended exactly if it has said so, with
what it has said, and then it says nothing more and leaves itself and the table as they are. -/
theorem follows_script (settings : Settings) (name : String) (ms : List Moment) :
    let c := Course.run { sender := { settings, id := name } } ms
    (∃ j, Follows (script settings name j) c.said ∨
      ∃ e, ClosesWith (script settings name j) c.said (.finished (.error e))) ∧
    (c.sender.stage.isTerminal = true ↔ ∃ m result, (m, .finished result) ∈ c.said) ∧
    (c.sender.stage = .completed ↔ ∃ m id, (m, .finished (.ok id)) ∈ c.said) ∧
    (∀ e, c.sender.stage = .failed e ↔ ∃ m, (m, .finished (.error e)) ∈ c.said) ∧
    (c.sender.stage.isTerminal = true → ∀ env event table,
      handle env event c.sender table = { session := c.sender, table }) := by
  intro c
  have hspoken : Spoken settings name c := (spoken_run settings name ms).2
  exact ⟨hspoken.follows, hspoken.isTerminal_iff, hspoken.completed_iff, hspoken.failed_iff,
    fun hs env event table => handle_of_isTerminal hs event⟩

end DirectShare.Sender
