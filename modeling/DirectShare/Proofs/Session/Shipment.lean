import Mathlib
import DirectShare.Proofs.Session.Agreement
import DirectShare.Proofs.Session.Registration
import DirectShare.Proofs.Session.Script

/-!
# Shipments

A sender, a receiver, the frames between them and the table of tasks, with the grants of the download
service and the downloads of the receiver. If the sender ends with success, what it has sent has arrived: the
text if there is one, and the files otherwise.

A `Shipment` is a network with what was granted and downloaded so far. `Shipment.Whole` adds to the soundness
of the network that announcements, readable or sealed, are those of the task, and every step keeps it
(`Shipment.Whole.step`). `Shipment.delivered_of_finished` reads from it what has arrived, and
`Shipment.mixed_not_fetched` is a run at whose end the files of a task with a text are still where they were.
-/

namespace DirectShare

open TaskTable (Call Grant)

/-- A network, with the grants of the download service and the names of the files that the receiver has
downloaded, each time it was downloading. -/
structure Shipment where
  net : Net
  granted : List Grant := []
  fetched : List (List String) := []

/-- The receiver downloads files, or waits for its user to accept them. -/
def Receiver.Downloads (r : Receiver) : Prop :=
  r.stage = .downloading ∨ r.stage = .requestReceived ∧ r.awaitingDecision = true

namespace Shipment

/-- The end of a successful download. -/
def downloads (d : Shipment) (env : Surroundings) (names : List String) : Shipment :=
  { d with
    net := d.net.receiverDoes env (.downloadFinished (.ok names))
    fetched := if d.net.receiver.stage = .downloading then d.fetched ++ [names] else d.fetched }

/-- One event. Frames arrive in their order and as they were sent, unless they get lost, and a download
succeeds only after it was granted. Nobody but the sender and the download service touches the task. -/
inductive Step (task : SharedTask) : Shipment → Shipment → Prop
  /-- An event between the two sides alone. -/
  | talks (d : Shipment) (n : Net) : Net.Talks task d.net n → Step task d { d with net := n }
  /-- Frames get lost. -/
  | loses (d : Shipment) (toReceiver toSender : List Bytes) : toReceiver.Sublist d.net.toReceiver →
      toSender.Sublist d.net.toSender → Step task d { d with net := { d.net with toReceiver, toSender } }
  /-- The download service is granted a task. -/
  | grants (d : Shipment) (id : String) (g : Grant) (table : TaskTable) : d.net.table.grant id = .ok (g, table) →
      Step task d { d with net := { d.net with table }, granted := d.granted ++ [g] }
  /-- The receiver has downloaded files, of whatever names, that were granted. -/
  | downloads (d : Shipment) (env : Surroundings) (names : List String) (g : Grant) : d.net.Honest env →
      g ∈ d.granted → d.net.receiver.task? = some g.taskId → Step task d (d.downloads env names)
  /-- Another client uses the table. -/
  | others (d : Shipment) (call : Call) : (call.run d.net.table).2.find? task.id = d.net.table.find? task.id →
      Step task d { d with net := { d.net with table := (call.run d.net.table).2 } }

/-- Both sides before anything has happened. -/
def start (S R : Settings) (id : String) (table : TaskTable) : Shipment := { net := .start S R id table }

/-- What has arrived: the text of the task, or its files if it has no text. -/
structure Delivered (task : SharedTask) (d : Shipment) : Prop where
  text : ∀ text, task.text = some text → .textReceived task.id text ∈ d.net.receiverSaid
  files : task.text = none → task.files ≠ [] →
    ⟨task.id, task.files⟩ ∈ d.granted ∧ ∃ names ∈ d.fetched, names.Perm (task.files.map (·.name))

/-! ### What holds of every shipment -/

/-- What holds of every shipment. -/
structure Whole (task : SharedTask) (d : Shipment) : Prop where
  sound : d.net.Sound
  kept : Desk.Kept task d.net.sender d.net.table
  /-- The sender works on the announcement of the task. -/
  job : ∀ j, d.net.sender.job = some j →
    ∃ totalSize senderId senderName, j.request = task.announce totalSize senderId senderName
  /-- A readable announcement is that of the task. -/
  readable : ∀ bytes sequence body, .send bytes ∈ d.net.senderSaid →
    Frame.decode bytes = .ok ⟨.action, sequence, .sendRequest, .json body⟩ →
    ∃ j, d.net.sender.job = some j ∧ body = Json.Record.toJson j.request
  /-- What was sealed under a nonce of the sender is the announcement of the task. -/
  «sealed» : ∀ x ∈ d.net.log, ∀ sequence counter, x.nonce = CryptoContext.nonce .sender sequence counter →
    ∃ j, d.net.sender.job = some j ∧ x.IsAnnouncement j.request
  /-- The receiver has got the announcement of the task. -/
  request : ∀ request, d.net.receiver.request = some request →
    ∃ totalSize senderId senderName, request = task.announce totalSize senderId senderName
  /-- What is downloaded, or what the user is asked about, has no text. -/
  download : d.net.receiver.Downloads → ∀ request, d.net.receiver.request = some request →
    request.catShareText = none
  granted : ∀ g ∈ d.granted, g.taskId = task.id → g = ⟨task.id, task.files⟩
  delivered : ∀ id, d.net.HasReported id .ok → Delivered task d

variable {task : SharedTask} {d d' : Shipment} {env : Surroundings}

/-- At the start there is nothing to hold. -/
lemma whole_start {S R : Settings} {id : String} {table : TaskTable} (hdistinct : table.Distinct)
    (hnew : table.find? task.id = none) : Whole task (start S R id table) where
  sound := Net.sound_start S R id table
  kept :=
    { distinct := hdistinct
      sender := Sender.coherent_start S id
      job := fun _ hj => by cases hj
      entry := fun _ hfind => by
        rw [show table.find? task.id = some _ from hfind] at hnew
        cases hnew }
  job _ hj := by cases hj
  readable _ _ _ hsent := absurd hsent List.not_mem_nil
  «sealed» _ hx := absurd hx (Set.notMem_empty _)
  request _ hrequest := by cases hrequest
  download _ _ hrequest := by cases hrequest
  granted _ hg := absurd hg List.not_mem_nil
  delivered _ := by
    rintro ⟨bytes, hbytes, -⟩
    exact absurd hbytes List.not_mem_nil

/-- What is delivered stays delivered. -/
lemma Delivered.mono (h : Delivered task d) (hsaid : d.net.receiverSaid ⊆ d'.net.receiverSaid)
    (hgranted : d.granted ⊆ d'.granted) (hfetched : d.fetched ⊆ d'.fetched) : Delivered task d' := by
  refine ⟨fun text htext => hsaid (h.text text htext), fun htext hfiles => ?_⟩
  obtain ⟨hgrant, names, hnames, hperm⟩ := h.files htext hfiles
  exact ⟨hgranted hgrant, names, hfetched hnames, hperm⟩

/-- The names of downloaded files are those of the announced ones, in any order. -/
lemma perm_of_mismatch? {names : List String} {totalSize : UInt64} {senderId senderName : String}
    (hfiles : task.files ≠ []) (h : Receiver.mismatch? (task.announce totalSize senderId senderName) names = none) :
    names.Perm (task.files.map (·.name)) := by
  have hannounced : (task.announce totalSize senderId senderName).files ≠ [] := by
    simpa [SharedTask.announce] using hfiles
  have hnames : (task.announce totalSize senderId senderName).files.map (·.name) = task.files.map (·.name) := by
    simp [SharedTask.announce, Function.comp_def]
  cases Receiver.mismatch?_eq_none_iff.1 h with
  | listed _ hperm =>
    rw [hnames] at hperm
    exact hperm
  | counted hnil => exact absurd hnil hannounced

/-- An announcement is about its task. -/
lemma id_of_task? {totalSize : UInt64} {senderId senderName id : String}
    (h : (task.announce totalSize senderId senderName).task? = some id) : id = task.id := by
  simp only [SendRequest.task?, SharedTask.announce, Option.some_or] at h
  exact (Option.some.inj (Option.eq_some_of_filter_eq_some h)).symm

section ReceiverDoes

variable {event : Receiver.Event}

/-- What the receiver takes for an announcement is that of the task. -/
lemma Whole.announced_of_receive (h : Whole task d) (henv : d.net.Honest env) {bytes : Bytes}
    {sequence : UInt32} {body : Option Json} {request : SendRequest} {channel : Channel}
    (hsent : .send bytes ∈ d.net.senderSaid)
    (hreceive : Channel.receive env.provider bytes d.net.receiver.channel =
      .ok (.action sequence .sendRequest body) channel)
    (hread : Channel.readBody .sendRequest body = .ok request) :
    ∃ totalSize senderId senderName, request = task.announce totalSize senderId senderName := by
  have hannounced : (∃ j, d.net.sender.job = some j ∧ body = some (Json.Record.toJson j.request)) →
      ∃ totalSize senderId senderName, request = task.announce totalSize senderId senderName := by
    rintro ⟨j, hj, rfl⟩
    rw [Exchange.readBody_announcement] at hread
    cases hread
    exact h.job j hj
  apply hannounced
  cases body with
  | none => cases hread
  | some b =>
    obtain ⟨hdecode, -⟩ | ⟨c, key, header, ciphertext, plaintext, hc, -, -, hdecrypt, hparse⟩ :=
      Channel.body_of_receive hreceive
    · obtain ⟨j, hj, rfl⟩ := h.readable bytes sequence b hsent hdecode
      exact ⟨j, hj, rfl⟩
    · have hlogged := henv key _ _ _ _ hdecrypt
      rw [h.sound.receiver.role c hc] at hlogged
      obtain ⟨j, hj, hannounces⟩ := h.sealed _ hlogged sequence c.received rfl
      have hbody := hannounces.parseBytes_eq
      rw [show Json.parseBytes plaintext = some b from hparse] at hbody
      exact ⟨j, hj, hbody⟩

/-- The receiver downloads, and asks its user, only if there is no text. -/
lemma download_of_answers {r : Receiver} {t : Receiver.Turn} (hr : r.stage.isTerminal = false)
    (hcoherent : r.Coherent)
    (h : r.Downloads → ∀ request, r.request = some request → request.catShareText = none)
    (hturn : Receiver.Answers env r event t) :
    t.session.Downloads → ∀ request, t.session.request = some request → request.catShareText = none := by
  cases hturn with
  | published => rintro (hstage | ⟨hstage, -⟩) <;> cases hstage
  | joins => rintro (hstage | ⟨hstage, -⟩) <;> cases hstage
  | connects => rintro (hstage | ⟨hstage, -⟩) <;> cases hstage
  | connected => rintro (hstage | ⟨hstage, -⟩) <;> cases hstage
  | negotiated => rintro (hstage | ⟨hstage, -⟩) <;> cases hstage
  | downloads _ _ _ _ _ htext =>
    rintro - request ⟨⟩
    exact htext
  | asks _ _ _ _ _ htext =>
    rintro - request ⟨⟩
    exact htext
  | shows hnegotiated =>
    -- nobody is asked before there is an announcement
    rintro (hstage | ⟨-, hawaiting⟩)
    · cases hstage
    · have hrequested := (hcoherent.asked hr hawaiting).1
      rw [hnegotiated] at hrequested
      cases hrequested
  | accepts hrequested hawaiting => exact fun _ => h (.inr ⟨hrequested, hawaiting⟩)
  | refuses hrequested =>
    rintro (hstage | ⟨-, hawaiting⟩)
    · have hstage : r.stage = .downloading := hstage
      rw [hrequested] at hstage
      cases hstage
    · cases hawaiting
  | downloaded hdownloading => exact fun _ => h (.inl hdownloading)
  | completed => rintro (hstage | ⟨hstage, -⟩) <;> cases hstage
  | declined => rintro (hstage | ⟨hstage, -⟩) <;> cases hstage
  | unreported => rintro (hstage | ⟨hstage, -⟩) <;> cases hstage
  | spoiled => rintro (hstage | ⟨hstage, -⟩) <;> cases hstage
  | failed => rintro (hstage | ⟨hstage, -⟩) <;> cases hstage

/-- An event of the receiver keeps a shipment whole, if it is no frame or one that the sender has sent, and
if a download that succeeds was granted. -/
lemma Whole.receiverDoes (h : Whole task d) (henv : d.net.Honest env) {fetched : List (List String)}
    (hsent : ∀ bytes, event = .frame bytes → .send bytes ∈ d.net.senderSaid) (hfetched : d.fetched ⊆ fetched)
    (hdownload : ∀ names, event = .downloadFinished (.ok names) → d.net.receiver.stage = .downloading →
      names ∈ fetched ∧ ∃ g ∈ d.granted, d.net.receiver.task? = some g.taskId) :
    Whole task { d with net := d.net.receiverDoes env event, fetched } := by
  cases hr : d.net.receiver.stage.isTerminal with
  | true =>
    rw [Net.receiverDoes_of_isTerminal hr]
    exact { h with
      delivered := fun id hhas => (h.delivered id hhas).mono (.refl _) (.refl _) hfetched }
  | false =>
    have hturn := Receiver.handle_answers env hr event
    obtain ⟨-, hrequest⟩ := Receiver.follows hturn h.request
      fun bytes sequence body request channel hframe _ hreceive hread =>
        h.announced_of_receive henv (hsent bytes hframe) hreceive hread
    have hsaid : d.net.receiverSaid ⊆ (d.net.receiverDoes env event).receiverSaid := List.subset_append_left _ _
    refine ⟨h.sound.receiverDoes hsent, h.kept, h.job, h.readable, ?_, hrequest,
      download_of_answers hr h.sound.receiver h.download hturn, h.granted, fun id hhas => ?_⟩
    · rintro x (hx | hx) sequence counter hnonce
      · exact h.sealed x hx sequence counter hnonce
      · -- a report carries a nonce of the receiver's side, which no offer of the sender does
        obtain ⟨sequence', id, outcome, hreport, -⟩ := Receiver.isReport_of_makes h.sound.receiver.role hx
        obtain ⟨counter', hnonce'⟩ := hreport.nonce_eq
        obtain ⟨hside, -, -⟩ := CryptoContext.nonce_injective (hnonce.symm.trans hnonce')
        cases hside
    · obtain hold | ⟨-, hdelivers⟩ := h.sound.reported_of_receiverDoes hr hhas
      · exact (h.delivered id hold).mono hsaid (.refl _) hfetched
      cases hdelivers rfl with
      | text hgot htask htext hshown =>
        obtain ⟨totalSize, senderId, senderName, rfl⟩ := hrequest _ hgot
        obtain rfl := id_of_task? htask
        have htext : task.text = some _ := htext
        refine ⟨fun text' htext' => ?_, fun hnone => ?_⟩
        · rw [htext] at htext'
          cases htext'
          exact List.mem_append_right _ hshown
        · rw [htext] at hnone
          cases hnone
      | files hevent hdownloading hgot hmatch =>
        obtain ⟨hnames, g, hg, htask⟩ := hdownload _ hevent hdownloading
        have hnotext := h.download (.inl hdownloading) _ hgot
        obtain ⟨totalSize, senderId, senderName, rfl⟩ := h.request _ hgot
        have hnotext : task.text = none := hnotext
        refine ⟨fun text htext => ?_, fun _ hfiles => ⟨?_, _, hnames, perm_of_mismatch? hfiles hmatch⟩⟩
        · rw [hnotext] at htext
          cases htext
        · have hannounced : (task.announce totalSize senderId senderName).task? = some g.taskId := by
            rw [Receiver.task?, hgot] at htask
            exact htask
          rw [← h.granted g hg (id_of_task? hannounced)]
          exact hg

end ReceiverDoes

section SenderDoes

variable {event : Sender.Event}

/-- An event of the sender keeps a shipment whole, if it is no frame or one that the receiver has sent. -/
lemma Whole.senderDoes (h : Whole task d) (henv : d.net.Honest env)
    (hsent : ∀ bytes, event = .frame bytes → .send bytes ∈ d.net.receiverSaid)
    (hbegin : ∀ task' network, event = .begin task' network → task' = task) :
    Whole task { d with net := d.net.senderDoes env event } := by
  cases hs : d.net.sender.stage.isTerminal with
  | true =>
    rw [Net.senderDoes_of_isTerminal hs]
    exact h
  | false =>
    have hturn := Sender.handle_answers env d.net.table hs event
    have hsound := h.sound.senderDoes henv hsent
    have hkept := h.kept.answers hs (fun task' network _ => hbegin task' network) hturn hsound.sender
    -- what the sender works on does not change
    have hjob : ∀ j, d.net.sender.job = some j → (d.net.senderDoes env event).sender.job = some j :=
      fun j => h.sound.sender.job_handle
    refine ⟨hsound, hkept, fun j hj => ?_, ?_, ?_, h.request, h.download, h.granted, fun id hhas => ?_⟩
    · have hj : (d.net.sender.handle env event d.net.table).session.job = some j := hj
      generalize d.net.sender.handle env event d.net.table = t at hturn hj
      cases hturn with
      | began =>
        cases hj
        exact ⟨_, _, _, congrArg (SharedTask.announce · _ _ _) (hbegin _ _ rfl)⟩
      | _ => exact h.job j hj
    · intro bytes sequence body hbytes hdecode
      obtain hold | hnew := List.mem_append.1 hbytes
      · obtain ⟨j, hj, hbody⟩ := h.readable bytes sequence body hold hdecode
        exact ⟨j, hjob j hj, hbody⟩
      · exact Sender.body_of_sends hturn hnew hdecode
    · rintro x (hx | hx) sequence counter hnonce
      · obtain ⟨j, hj, hannounces⟩ := h.sealed x hx sequence counter hnonce
        exact ⟨j, hjob j hj, hannounces⟩
      · obtain ⟨j, hj, hannounces⟩ := Sender.isAnnouncement_of_makes h.sound.sender.role hx
        exact ⟨j, hjob j hj, hannounces⟩
    · have hdelivered := h.delivered id (h.sound.hasReported_senderDoes.1 hhas)
      exact hdelivered.mono (.refl _) (.refl _) (.refl _)

end SenderDoes

/-- Losing frames keeps a shipment whole. -/
lemma Whole.loses (h : Whole task d) {toReceiver toSender : List Bytes}
    (hreceiver : toReceiver.Sublist d.net.toReceiver) (hsender : toSender.Sublist d.net.toSender) :
    Whole task { d with net := { d.net with toReceiver, toSender } } :=
  { h with
    sound := h.sound.loses hreceiver hsender
    delivered := fun id hhas => (h.delivered id hhas).mono (.refl _) (.refl _) (.refl _) }

/-- An event between the two sides keeps a shipment whole. -/
lemma Whole.talks (h : Whole task d) {n : Net} (htalks : Net.Talks task d.net n) :
    Whole task { d with net := n } := by
  cases htalks with
  | sender env event henv hframe hbegin =>
    exact h.senderDoes henv (fun bytes he => absurd he (hframe bytes)) hbegin
  | receiver env event henv hframe hdownload =>
    exact h.receiverDoes henv (fun bytes he => absurd he (hframe bytes)) (.refl _)
      fun names he => absurd he (hdownload names)
  | toSender env bytes rest henv hqueue =>
    have hrest : rest.Sublist d.net.toSender := by simp [hqueue]
    have hsent := h.sound.toSender bytes (by simp [hqueue])
    exact (h.loses (List.Sublist.refl _) hrest).senderDoes henv (by rintro _ ⟨⟩; exact hsent) nofun
  | toReceiver env bytes rest henv hqueue =>
    have hrest : rest.Sublist d.net.toReceiver := by simp [hqueue]
    have hsent := h.sound.toReceiver bytes (by simp [hqueue])
    exact (h.loses hrest (List.Sublist.refl _)).receiverDoes henv (by rintro _ ⟨⟩; exact hsent) (.refl _)
      nofun

/-- Every step keeps what holds of every shipment. -/
theorem Whole.step (h : Whole task d) (hstep : Step task d d') : Whole task d' := by
  cases hstep with
  | talks n htalks => exact h.talks htalks
  | loses toReceiver toSender hreceiver hsender => exact h.loses hreceiver hsender
  | grants id g table hgrant =>
    have hrun : (Call.grant id).run d.net.table = (.granted g, table) := by simp only [Call.run, hgrant]
    have hsound := h.sound.step (.grants d.net id g table hgrant)
    have hkept : Desk.Kept task d.net.sender ((Call.grant id).run d.net.table).2 :=
      h.kept.client (by rintro ⟨⟩; exact .inl rfl)
    rw [hrun] at hkept
    refine { h with sound := hsound, kept := hkept, granted := ?_, delivered := ?_ }
    · intro g' hg' hid
      obtain hold | hnew := List.mem_append.1 hg'
      · exact h.granted g' hold hid
      · obtain rfl := List.mem_singleton.1 hnew
        obtain ⟨e, hfind, -, rfl, -⟩ := TaskTable.exists_of_granted (congrArg Prod.fst hrun)
        obtain rfl : id = task.id := hid
        rw [(h.kept.entry e hfind).1]
    · exact fun id hhas => (h.delivered id hhas).mono (.refl _) (List.subset_append_left _ _) (.refl _)
  | downloads env names g henv hg htask =>
    have hfetched : d.fetched ⊆
        if d.net.receiver.stage = .downloading then d.fetched ++ [names] else d.fetched := by
      split_ifs
      · exact List.subset_append_left _ _
      · exact .refl _
    refine h.receiverDoes henv (by simp) hfetched ?_
    rintro _ ⟨⟩ hdownloading
    rw [if_pos hdownloading]
    exact ⟨by simp, g, hg, htask⟩
  | others call hcall =>
    have hkept : Desk.Kept task d.net.sender (call.run d.net.table).2 :=
      ⟨h.kept.distinct.run call, h.kept.sender, h.kept.job, by rw [hcall]; exact h.kept.entry⟩
    have hsound := h.sound.step (.others d.net (call.run d.net.table).2 fun j hj => by
      rw [h.kept.job j hj]
      exact hcall)
    exact { h with
      sound := hsound
      kept := hkept
      delivered := fun id hhas => (h.delivered id hhas).mono (.refl _) (.refl _) (.refl _) }

/-! ### Files that are downloaded -/

/-- What two sides do alone is also what they do in a shipment. -/
lemma reaches_talks (hrun : Relation.ReflTransGen (Step task) d d') {n : Net}
    (htalks : Relation.ReflTransGen (Net.Talks task) d'.net n) :
    Relation.ReflTransGen (Step task) d { d' with net := n } := by
  induction htalks with
  | refl => exact hrun
  | tail _ hnext ih => exact ih.tail (.talks _ _ hnext)

section Run

open Handshake Exchange

variable {S R : Settings} {id : String} {network : NetworkInfo} {port : UInt16} {table table' : TaskTable}

/-- The task is granted and its files are downloaded. -/
lemma exists_downloaded {known : List Sealing} {s : Sender} {r r' : Receiver} {forward back : List Bytes}
    {said : List Sender.Intent} {said' intents : List Receiver.Intent} {g : Grant} {names : List String}
    {used : Bool} (hrun : Net.LeadsTo task (.start S R id table) known s r table' forward back said said')
    {table'' : TaskTable} (hgrant : table'.grant task.id = .ok (g, table'')) (htask : r.task? = some g.taskId)
    (hturn : r.handle (Net.remembering known) (.downloadFinished (.ok names)) = ⟨r', (), intents, used, false⟩) :
    ∃ d, Relation.ReflTransGen (Step task) (start S R id table) d ∧
      Net.LeadsTo task d.net known s r' table'' forward (back ++ intents.filterMap (·.frame?)) said
        (said' ++ intents) := by
  obtain ⟨log, hknown, htalks⟩ := hrun
  have hgranted := (reaches_talks (d := start S R id table) .refl htalks).tail (.grants _ task.id g table'' hgrant)
  refine ⟨_, hgranted.tail (.downloads _ (Net.remembering known) names g
    (Net.honest_remembering hknown) (by simp) htask), ?_⟩
  simp only [downloads, Net.receiverDoes, hturn]
  exact ⟨_, fun x hx => .inl (hknown x hx), .refl⟩

/-- A sender that wants no encryption and a receiver that accepts everything can share files: there is a run
at whose end the sender has ended with success. -/
lemma exists_files_run (hS : S.encryption = false) (hversion : worstVersion S R ≤ bestVersion S R)
    (hauto : R.autoAccept = true) (hid : task.id ≠ "") (htext : task.text = none)
    (hport : network.servicePort? = some port) (hkey : network.key = none) {totalSize : UInt64}
    (hsize : task.totalSize? = some totalSize) (hnew : table.find? task.id = none) :
    ∃ d, Relation.ReflTransGen (Step task) (start S R id table) d ∧
      .finished (.ok task.id) ∈ d.net.senderSaid := by
  obtain ⟨known, s, r, table₁, announcement, said, said', key?, hannounced, h, hkeyed, -, -, hoffered⟩ :=
    Net.exists_leadsTo_announced S R id hversion hport hkey hsize hnew
  obtain rfl : key? = none := by simpa [hS] using hkeyed
  obtain ⟨table₂, hrequest, hrequested⟩ := hoffered.request
  obtain ⟨table₃, hgrant, hserving⟩ := hrequested.grant
  obtain ⟨table₄, hfinish, -⟩ := hserving.finish rfl .completed 0
  let request := task.announce totalSize id S.deviceName
  have htask : request.task? = some task.id := task?_announce task totalSize id S.deviceName hid
  have hfault : Receiver.fault? request (.ok (task.files.map (·.name))) = none :=
    mismatch?_announce task totalSize id S.deviceName htext
  -- the receiver is to download, and may
  have hdownloading := hannounced.toReceiver
    (handle_announcement_accepted (e := Net.remembering known) h.opens rfl h.negotiated h.listening h.announcement
      htask htext (by rw [h.settings]; exact hauto))
  have hauthorized := hdownloading.toSender (handle_requestAck h.sent h.announcing h.job hrequest)
  -- it does, and reports that
  obtain ⟨report, hreport, hturn⟩ :=
    handle_download (e := Net.remembering known)
      (r := { r with stage := .downloading, channel := asked none, request := some request })
      (cooperates_ideal known) rfl rfl h.unreported rfl hfault htask rfl
  obtain ⟨d, hrun, hreported⟩ := exists_downloaded hauthorized hgrant htask hturn
  obtain ⟨channel, hcompleted⟩ :=
    handle_report (e := Net.remembering known) (s := { s with stage := .requestAcked, channel := waiting none })
      (j := ⟨task.id, request, network, port⟩) opensReport_none rfl (.inl rfl) rfl h.job hreport hfinish
  obtain ⟨log, -, htalks⟩ := hreported.toSender hcompleted
  exact ⟨_, reaches_talks hrun htalks, by simp⟩

end Run

/-! ### What a success says -/

variable {S R : Settings} {id : String} {grace lifetime : Nat}

/-- **What was sent has arrived.** If the sender ends with success, it does so with its task, and the receiver
has shown exactly the text of the task, if it has one. The files of a task without text were granted, and the
receiver was told that it has downloaded them, in any order. -/
theorem delivered_of_finished (earlier : List Call)
    (hnew : (TaskTable.play earlier { grace, lifetime }).find? task.id = none)
    (hrun : Relation.ReflTransGen (Step task) (start S R id (.play earlier { grace, lifetime })) d)
    {id' : String} (hfinished : .finished (.ok id') ∈ d.net.senderSaid) :
    id' = task.id ∧
    (∀ text, task.text = some text → .textReceived task.id text ∈ d.net.receiverSaid) ∧
    (task.text = none → task.files ≠ [] →
      ⟨task.id, task.files⟩ ∈ d.granted ∧ ∃ names ∈ d.fetched, names.Perm (task.files.map (·.name))) := by
  have hwhole : Whole task d := by
    clear hfinished
    induction hrun with
    | refl => exact whole_start (TaskTable.distinct_empty grace lifetime |>.play earlier) hnew
    | tail _ hstep ih => exact ih.step hstep
  obtain ⟨-, hreported, -, j, hj, rfl⟩ := hwhole.sound.completed _ hfinished
  obtain ⟨htext, hfiles⟩ := hwhole.delivered _ hreported
  exact ⟨hwhole.kept.job j hj, htext, hfiles⟩

/-- A file that has arrived. -/
theorem delivered_of_finished_file :
    let task : SharedTask := { id := "t", files := [.ofBytes "a" "text/plain" [97]] }
    ∃ d, Relation.ReflTransGen (Step task)
        (start { deviceName := "left", encryption := false } { deviceName := "right", autoAccept := true } "s"
          { grace := 0, lifetime := 0 }) d ∧
      .finished (.ok "t") ∈ d.net.senderSaid ∧ ⟨"t", task.files⟩ ∈ d.granted ∧ ["a"] ∈ d.fetched := by
  intro task
  have hnew : (TaskTable.play [] { grace := 0, lifetime := 0 }).find? task.id = none := rfl
  have hport : (NetworkInfo.plain "ssid" "psk" "mac" 8443).servicePort? = some 8443 := by decide
  have hversion : Handshake.worstVersion { deviceName := "left", encryption := false }
        { deviceName := "right", autoAccept := true } ≤
      Handshake.bestVersion { deviceName := "left", encryption := false }
        { deviceName := "right", autoAccept := true } := by decide
  obtain ⟨d, hrun, hfinished⟩ := exists_files_run rfl hversion rfl (by decide) rfl hport rfl rfl hnew
  obtain ⟨-, -, hfiles⟩ := delivered_of_finished [] hnew hrun hfinished
  obtain ⟨hgranted, names, hnames, hperm⟩ := hfiles rfl (List.cons_ne_nil _ _)
  obtain rfl : names = ["a"] := List.perm_singleton.1 hperm
  exact ⟨d, hrun, hfinished, hgranted, hnames⟩

/-- Files that come with a text do not arrive: the sender may end with success although they were never
granted and never downloaded. -/
theorem mixed_not_fetched :
    let task : SharedTask := { id := "t", files := [.ofBytes "a" "text/plain" [97]], text := some "hello" }
    ∃ d, Relation.ReflTransGen (Step task)
        (start { deviceName := "left", encryption := false } { deviceName := "right" } "s"
          { grace := 0, lifetime := 0 }) d ∧
      .finished (.ok "t") ∈ d.net.senderSaid ∧ d.granted = [] ∧ d.fetched = [] := by
  intro task
  have hnew : TaskTable.find? { grace := 0, lifetime := 0 } task.id = none := rfl
  have hport : (NetworkInfo.plain "ssid" "psk" "mac" 8443).servicePort? = some 8443 := by decide
  have hversion : Handshake.worstVersion { deviceName := "left", encryption := false } { deviceName := "right" } ≤
      Handshake.bestVersion { deviceName := "left", encryption := false } { deviceName := "right" } := by decide
  obtain ⟨n, htalks, hfinished, -⟩ := Net.exists_text_run _ _ _ hversion (by decide) rfl hport rfl rfl hnew
  exact ⟨_, reaches_talks .refl htalks, hfinished, rfl, rfl⟩

end Shipment

end DirectShare
