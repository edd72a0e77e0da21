import Mathlib
import DirectShare.Proofs.Session.Reports
import DirectShare.Proofs.Session.Script

/-!
# The script of receivers

Whatever a receiver is given, in whatever order, what it says is the start of a script, or such a start
followed by the failure with which it ends. Up to the acknowledgement of the announcement there is one
script. It then goes on in one of four ways: a text is shown, files are downloaded, they have not come as
announced, or the user refuses them.

A `Receiver.Course` is a receiver with all that it has said, each in answer to what it was given, and
`Receiver.Tale.script` lists what it says in each of the four ways. `Receiver.Spoken` relates what was said to
the stage. Every event keeps it (`Receiver.Spoken.next`), by one lemma for each stage, and
`Receiver.follows_script_and_consent` reads from it what was said, that the user was asked first, and when the
receiver has ended.
-/

namespace DirectShare.Receiver

/-- What a receiver is given at one moment. -/
structure Moment where
  env : Surroundings
  event : Event

/-- A frame with the given header has arrived. -/
def Moment.Brings (m : Moment) (kind : Frame.Kind) (sequence : UInt32) (action : Action) : Prop :=
  ∃ bytes, m.event = .frame bytes ∧ Frame.HasHeader kind sequence action bytes

/-- The announcement of a task has arrived. -/
def Moment.Announces (m : Moment) (sequence : UInt32) (request : SendRequest) : Prop :=
  ∃ bytes body, m.event = .frame bytes ∧ Frame.Bears m.env.provider .action sequence .sendRequest body bytes ∧
    Json.Record.ofJson? body = some request

/-- A receiver with all that it has said, and what each of that answers. -/
structure Course where
  receiver : Receiver
  said : List (Moment × Intent) := []

namespace Course

/-- One more event happens. -/
def next (c : Course) (m : Moment) : Course :=
  let t := c.receiver.handle m.env m.event
  { receiver := t.session, said := c.said ++ t.intents.map fun i => (m, i) }

/-- Events happen one after the other. -/
def run (c : Course) (ms : List Moment) : Course := ms.foldl next c

end Course

/-! ### The script -/

/-- What a session is about. -/
structure Tale where
  /-- The network that is joined. -/
  network : NetworkInfo
  /-- The port of the sender's service in it. -/
  port : UInt16
  /-- The number of the version negotiation. -/
  first : UInt32
  /-- The number of the announcement. -/
  second : UInt32
  /-- The announced task. -/
  request : SendRequest
  /-- Its name. -/
  id : String

/-- The ways in which a session can go on once a task is announced. -/
inductive Way where
  /-- The text is shown. -/
  | text
  /-- The files are downloaded. -/
  | files
  /-- The files have not come as announced. -/
  | spoiled
  /-- The user refuses the files. -/
  | refused
deriving DecidableEq

/-- A line of the script. -/
abbrev Line := Moment → Intent → Prop

/-- The outcome of a task is reported, in the only action of a receiver. -/
def Reporting (id : String) (outcome : Outcome) : Line := fun m i =>
  ∃ reason bytes, i = .send bytes ∧
    Frame.Carries m.env.provider .action 100 .status (reportJson id outcome reason) bytes

namespace Tale

/-- What is said up to the acknowledgement of the announcement, whose number is the greater one. -/
def opening (t : Tale) : List Line :=
  [fun m i => m.event = .publish ∧ ∃ bytes, i = .publishDeviceInfo bytes,
    fun m i => (∃ bytes, m.event = .credentialsWritten bytes) ∧ t.network.servicePort? = some t.port ∧
      i = .joinNetwork t.network,
    fun m i => ∃ host, m.event = .networkJoined host ∧ i = .openChannel host t.port,
    fun m i => m.Brings .action t.first .versionNegotiation ∧ ∃ (ack : VersionOffer) (bytes : Bytes),
      i = .send bytes ∧
        Frame.Carries m.env.provider .ack t.first .versionNegotiation (Json.Record.toJson ack) bytes,
    fun m i => m.Brings .action t.first .versionNegotiation ∧ ∃ version mode, i = .negotiated version mode,
    fun m i => t.first < t.second ∧ m.Announces t.second t.request ∧ t.request.task? = some t.id ∧
      i = .send (Frame.encode ⟨.ack, t.second, .sendRequest, .empty⟩)]

/-- The user is asked about files, where the settings say so. -/
def asking (settings : Settings) (t : Tale) : Line := fun m i =>
  settings.autoAccept = false ∧ m.Announces t.second t.request ∧ t.request.catShareText = none ∧
    i = .confirmRequest t.request

/-- Files are downloaded at once, if the settings say so, or when the user accepts them. -/
def downloading (settings : Settings) (t : Tale) : List Line :=
  if settings.autoAccept then
    [fun m i => m.Announces t.second t.request ∧ t.request.catShareText = none ∧ i = .download t.id]
  else [t.asking settings, fun m i => m.event = .decision true ∧ i = .download t.id]

/-- The outcome of a download is reported. -/
def reporting (t : Tale) (outcome : Outcome) : Line := fun m i =>
  (∃ result, m.event = .downloadFinished result) ∧ Reporting t.id outcome m i

/-- The session ends with success when its report is acknowledged. -/
def finishing (t : Tale) : Line := fun m i => m.Brings .ack 100 .status ∧ i = .finished (.ok t.id)

/-- What is said after the acknowledgement of the announcement. -/
def ending (settings : Settings) (t : Tale) : Way → List Line
  | .text =>
    [fun m i => m.Announces t.second t.request ∧ ∃ text, t.request.catShareText = some text ∧
        i = .textReceived t.id text,
      fun m i => m.Announces t.second t.request ∧ Reporting t.id .ok m i,
      t.finishing]
  | .files => t.downloading settings ++ [t.reporting .ok, t.finishing]
  | .spoiled =>
    t.downloading settings ++
      [t.reporting .error, fun _ i => ∃ e, e.kind = .streamCorrupted ∧ i = .finished (.error e)]
  | .refused =>
    [t.asking settings,
      fun m i => m.event = .decision false ∧ Reporting t.id .refused m i,
      fun m i => m.Brings .ack 100 .status ∧ ∃ e, e.kind = .transferRefused ∧ i = .finished (.error e)]

/-- What a receiver says, in each of the four ways. -/
def script (settings : Settings) (t : Tale) (way : Way) : List Line := t.opening ++ t.ending settings way

end Tale

/-! ### How far the script has come -/

/-- The lines that a receiver has said before its end. -/
def linesSaid (settings : Settings) (t : Tale) (r : Receiver) : List Line :=
  match r.stage with
  | .idle => t.opening.take 0
  | .advertised => t.opening.take 1
  | .credentialsReceived _ => t.opening.take 2
  | .networkJoined | .handshakeConnected => t.opening.take 3
  | .versionNegotiated => t.opening.take 5
  | .requestReceived =>
    match r.reported with
    | none => t.opening ++ [t.asking settings]
    | some .ok => t.opening ++ (t.ending settings .text).take 2
    | some _ => t.opening ++ (t.ending settings .refused).take 2
  | .downloading =>
    match r.reported with
    | none => t.opening ++ t.downloading settings
    | some _ => t.opening ++ t.downloading settings ++ [t.reporting .ok]
  | _ => []

/-- The session goes on, and the script has come as far as its stage tells. -/
structure Midway (settings : Settings) (t : Tale) (c : Course) : Prop where
  opened : c.receiver.stage.isTerminal = false
  /-- The port is that of the joined network. -/
  port : ∀ port, c.receiver.stage = .credentialsReceived port → port = t.port
  /-- The version negotiation is the first action that has come. -/
  first : c.receiver.stage = .versionNegotiated → c.receiver.channel.lastPeerSequence = some t.first
  /-- The announcement is that of the script. -/
  request : c.receiver.stage.IsBusy → c.receiver.request = some t.request ∧ t.request.task? = some t.id
  /-- The user is asked only where the settings say so. -/
  asked : c.receiver.stage = .requestReceived → c.receiver.reported = none → settings.autoAccept = false
  /-- Only these outcomes wait for their acknowledgement. -/
  outcome : ∀ outcome, c.receiver.reported = some outcome →
    outcome = .ok ∨ c.receiver.stage = .requestReceived ∧ outcome = .refused ∧ settings.autoAccept = false
  /-- The report is the first action of the channel. -/
  fresh : c.receiver.reported = none → c.receiver.channel.nextSequence = 100
  waiting : c.receiver.reported.isSome = true → c.receiver.channel.pending = some (100, .status)
  said : List.Forall₂ Fits c.said (linesSaid settings t c.receiver)

/-- What was said goes with the stage. -/
inductive Spoken (settings : Settings) (c : Course) : Prop
  /-- The session goes on. -/
  | midway {t : Tale} : Midway settings t c → Spoken settings c
  /-- The script was said to its end. -/
  | completed {t : Tale} (way : Way) : c.receiver.stage = .completed → way ≠ .spoiled →
      Follows (t.script settings way) c.said →
      ClosesWith (t.script settings way) c.said (.finished (.ok t.id)) → Spoken settings c
  /-- The session has failed on its way. -/
  | failed {t : Tale} (way : Way) {e : Failure} : c.receiver.stage = .failed e → way ≠ .spoiled →
      ClosesWith (t.script settings way) c.said (.finished (.error e)) → Spoken settings c
  /-- The files have not come as announced. -/
  | spoiled {t : Tale} {e : Failure} : c.receiver.stage = .failed e →
      Follows (t.script settings .spoiled) c.said →
      ClosesWith (t.script settings .spoiled) c.said (.finished (.error e)) → Spoken settings c

variable {settings : Settings} {t : Tale} {c : Course} {r : Receiver} {env : Surroundings} {event : Event}

/-- Any tale, for a script that has not begun. -/
instance : Inhabited Tale where
  default :=
    { network := .plain "" "" "" 0, port := 0, first := 0, second := 0
      request := SharedTask.announce { id := "" } 0 "" "", id := "" }

/-- At the start nothing was said. -/
lemma spoken_start (settings : Settings) : Spoken settings { receiver := { settings } } :=
  .midway (t := default)
    { opened := rfl, port := by simp, first := by simp, request := nofun, asked := by simp, outcome := by simp
      fresh := fun _ => rfl, waiting := by simp, said := .nil }

/-- Agreeing on the encryption changes no numbers of the channel. -/
lemma numbers_agreement {offer ack : VersionOffer} {ch ch' : Channel}
    (h : agreement env settings offer ch = .ok (ack, ch')) :
    ch'.nextSequence = ch.nextSequence ∧ ch'.lastPeerSequence = ch.lastPeerSequence := by
  obtain ⟨-, rfl⟩ | ⟨-, -, -, -, -, -, rfl⟩ := agreement_ok h <;> exact ⟨rfl, rfl⟩

/-- A session in which no task is announced yet has reported nothing. -/
lemma midway_of_quiet (hopen : c.receiver.stage.isTerminal = false) (hbusy : ¬c.receiver.stage.IsBusy)
    (hnone : c.receiver.reported = none) (hfresh : c.receiver.channel.nextSequence = 100)
    (hport : ∀ port, c.receiver.stage = .credentialsReceived port → port = t.port)
    (hfirst : c.receiver.stage = .versionNegotiated → c.receiver.channel.lastPeerSequence = some t.first)
    (hsaid : List.Forall₂ Fits c.said (linesSaid settings t c.receiver)) : Midway settings t c where
  opened := hopen
  port := hport
  first := hfirst
  request h := absurd h hbusy
  asked h := absurd (by rw [h]; trivial) hbusy
  outcome := by simp [hnone]
  fresh _ := hfresh
  waiting := by simp [hnone]
  said := hsaid

/-- A busy receiver works on the task of its tale. -/
lemma Midway.id_eq (h : Midway settings t c) (hbusy : c.receiver.stage.IsBusy) {id : String}
    (htask : c.receiver.task? = some id) : id = t.id := by
  obtain ⟨hrequest, hid⟩ := h.request hbusy
  rw [task?, hrequest, Option.bind_some, hid] at htask
  exact (Option.some.inj htask).symm

/-- The next lines of the script are said. -/
lemma Midway.adds (h : Midway settings t c) {lines : List Line} (next : List Line) {m : Moment}
    {intents : List Intent} (hlines : linesSaid settings t c.receiver = lines)
    (hnext : List.Forall₂ (fun i line => line m i) intents next) :
    List.Forall₂ Fits (c.said ++ intents.map fun i => (m, i)) (lines ++ next) :=
  forall₂_fits_append (hlines ▸ h.said) hnext

/-- The script for files, without its end. -/
lemma dropLast_files (settings : Settings) (t : Tale) :
    (t.script settings .files).dropLast = t.opening ++ t.downloading settings ++ [t.reporting .ok] := by
  simp [Tale.script, Tale.ending]

/-- The opening is the start of every script, shown here of that for a text. -/
lemma opening_isPrefix (settings : Settings) (t : Tale) : t.opening <+: (t.script settings .text).dropLast :=
  ⟨_, rfl⟩

/-- The lines of every stage are the start of a script that can be broken off. -/
lemma Midway.exists_way (h : Midway settings t c) :
    ∃ way, way ≠ .spoiled ∧ linesSaid settings t c.receiver <+: (t.script settings way).dropLast := by
  have hopening : ∀ k, ∃ way, way ≠ .spoiled ∧ t.opening.take k <+: (t.script settings way).dropLast :=
    fun k => ⟨.text, by decide, (List.take_prefix k _).trans (opening_isPrefix settings t)⟩
  have hopened := h.opened
  rw [linesSaid]
  -- In a stage that leaves more than one way, what was reported tells which one was taken.
  cases hstage : c.receiver.stage with
  | completed =>
    rw [hstage] at hopened
    cases hopened
  | failed e =>
    rw [hstage] at hopened
    cases hopened
  | requestReceived =>
    cases hreported : c.receiver.reported with
    | none => exact ⟨.refused, by decide, _, rfl⟩
    | some outcome =>
      cases outcome with
      | ok => exact ⟨.text, by decide, _, List.append_nil _⟩
      | error => exact ⟨.refused, by decide, _, List.append_nil _⟩
      | refused => exact ⟨.refused, by decide, _, List.append_nil _⟩
  | downloading =>
    refine ⟨.files, by decide, ?_⟩
    rw [dropLast_files]
    cases c.receiver.reported with
    | none => exact List.prefix_append _ _
    | some outcome => exact List.prefix_rfl
  | _ => exact hopening _

/-- A failure breaks off what was said so far. -/
lemma closes {said : List (Moment × Intent)} {lines : List Line} (h : List.Forall₂ Fits said lines) (way : Way)
    (hlines : lines <+: (t.script settings way).dropLast) (m : Moment) (result : Except Failure String) :
    ClosesWith (t.script settings way) (said ++ [(m, Intent.finished result)]) (.finished result) :=
  ⟨said, m, rfl, follows_of_isPrefix h hlines⟩

/-- A receiver has reported nothing, and sent no action, before it acknowledges an announcement. -/
lemma Midway.unsent (h : Midway settings t c) (hcoherent : c.receiver.Coherent)
    (hnegotiated : c.receiver.stage = .versionNegotiated) {bytes reply : Bytes} {sequence : UInt32}
    {body : Option Json} {ch₁ ch₂ : Channel}
    (hreceive : Channel.receive env.provider bytes c.receiver.channel = .ok (.action sequence .sendRequest body) ch₁)
    (hack : Channel.sendAck env.provider sequence .sendRequest none ch₁ = .ok reply ch₂) :
    c.receiver.reported = none ∧ ch₂.nextSequence = 100 := by
  have hnone := (hcoherent.of_not_busy h.opened (by rw [hnegotiated]; exact not_false)).1
  obtain ⟨-, -, hnext, -⟩ := Channel.receive_action hreceive
  obtain ⟨-, rfl⟩ := Channel.sendAck_none hack
  exact ⟨hnone, hnext.trans (h.fresh hnone)⟩

/-- The announcement is acknowledged, and something said at once. -/
lemma Midway.acknowledges (h : Midway settings t c) (hnegotiated : c.receiver.stage = .versionNegotiated)
    {bytes reply : Bytes} {sequence : UInt32} {body : Option Json} {request : SendRequest} {id : String}
    {ch₁ ch₂ : Channel}
    (hreceive : Channel.receive env.provider bytes c.receiver.channel = .ok (.action sequence .sendRequest body) ch₁)
    (hread : Channel.readBody .sendRequest body = .ok request) (htask : request.task? = some id)
    (hack : Channel.sendAck env.provider sequence .sendRequest none ch₁ = .ok reply ch₂)
    {t' : Tale} (ht' : t' = { t with second := sequence, request, id }) {intents : List Intent} (next : List Line)
    (hnext : Moment.Announces ⟨env, .frame bytes⟩ sequence request →
      List.Forall₂ (fun i line => line ⟨env, .frame bytes⟩ i) intents next) :
    List.Forall₂ Fits (c.said ++ (Intent.send reply :: intents).map fun i => (⟨env, .frame bytes⟩, i))
      (t'.opening ++ next) := by
  subst ht'
  obtain ⟨rfl, -⟩ := Channel.sendAck_none hack
  have hlines : linesSaid settings t c.receiver =
      (Tale.opening { t with second := sequence, request, id }).take 5 := by
    simp only [linesSaid, hnegotiated]
    rfl
  -- The number is greater than that of the version negotiation, which was the last to come.
  obtain ⟨-, hlast, -⟩ := Channel.receive_action hreceive
  obtain ⟨b, hbears, hrecord⟩ := Channel.bears_of_readBody hreceive hread
  have hannounces : Moment.Announces ⟨env, .frame bytes⟩ sequence request := ⟨bytes, b, rfl, hbears, hrecord⟩
  rw [← List.take_append_drop 5 (Tale.opening _), List.append_assoc]
  exact h.adds _ hlines (.cons ⟨hlast _ (h.first hnegotiated), hannounces, htask, rfl⟩ (hnext hannounces))

/-- The first report of a busy receiver is about its task, and waits with the first number. -/
lemma Midway.reports (h : Midway settings t c) (event : Event) (hbusy : c.receiver.stage.IsBusy)
    (hnone : c.receiver.reported = none) {id reason : String} {outcome : Outcome} {report : Bytes}
    {channel : Channel} (htask : c.receiver.task? = some id)
    (hsend : Channel.sendAction env.provider .status (some (reportJson id outcome reason)) c.receiver.channel =
      .ok report channel) :
    Reporting t.id outcome ⟨env, event⟩ (.send report) ∧ channel.pending = some (100, .status) := by
  obtain ⟨hcarries, -, hpending, -⟩ := Channel.carries_sendAction hsend
  rw [h.fresh hnone] at hcarries hpending
  obtain rfl := h.id_eq hbusy htask
  exact ⟨⟨reason, report, rfl, hcarries⟩, hpending⟩

/-- A receiver that reports files which have not come as announced says the rest of its script at once. -/
lemma Midway.spoils (h : Midway settings t c) (hdownloading : c.receiver.stage = .downloading)
    (hnone : c.receiver.reported = none) {m : Moment} (hevent : ∃ result, m.event = .downloadFinished result)
    {i : Intent} (hreporting : Reporting t.id .error m i) {e : Failure} (he : e.kind = .streamCorrupted)
    (hr : r.stage = .failed e) : Spoken settings ⟨r, c.said ++ [(m, i), (m, .finished (.error e))]⟩ := by
  have hlines : linesSaid settings t c.receiver = t.opening ++ t.downloading settings := by
    simp only [linesSaid, hdownloading, hnone]
  have hreports : List.Forall₂ Fits (c.said ++ [(m, i)])
      (t.opening ++ t.downloading settings ++ [t.reporting .error]) :=
    h.adds _ hlines (.cons ⟨hevent, hreporting⟩ .nil)
  have hends : Follows (t.script settings .spoiled) (c.said ++ [(m, i), (m, .finished (.error e))]) :=
    follows_of_isPrefix
      (h.adds [t.reporting .error, fun _ i => ∃ e, e.kind = .streamCorrupted ∧ i = .finished (.error e)] hlines
        (.cons ⟨hevent, hreporting⟩ (.cons ⟨e, he, rfl⟩ .nil)))
      (by simp [Tale.script, Tale.ending])
  refine .spoiled (t := t) hr hends ?_
  simpa using closes hreports .spoiled (by simp [Tale.script, Tale.ending]) m (.error e)

/-- A receiver whose report of success is acknowledged says the last line of its script. -/
lemma Midway.completes (h : Midway settings t c) (hbusy : c.receiver.stage.IsBusy)
    (hreported : c.receiver.reported = some .ok) {m : Moment} (hfinishing : t.finishing m (.finished (.ok t.id)))
    (hr : r.stage = .completed) : Spoken settings ⟨r, c.said ++ [(m, .finished (.ok t.id))]⟩ := by
  have hfinishes {lines : List Line} (hlines : linesSaid settings t c.receiver = lines) :
      List.Forall₂ Fits (c.said ++ [(m, .finished (.ok t.id))]) (lines ++ [t.finishing]) :=
    h.adds _ hlines (.cons hfinishing .nil)
  -- What was acknowledged is the report on a text, or on files, according to the stage.
  cases hstage : c.receiver.stage with
  | requestReceived =>
    have hlines : linesSaid settings t c.receiver = t.opening ++ (t.ending settings .text).take 2 := by
      simp only [linesSaid, hstage, hreported]
    exact .completed .text hr (by decide) (follows_of_isPrefix (hfinishes hlines) ⟨[], rfl⟩)
      (closes (hlines ▸ h.said) .text ⟨[], rfl⟩ _ _)
  | downloading =>
    have hlines : linesSaid settings t c.receiver = t.opening ++ t.downloading settings ++ [t.reporting .ok] := by
      simp only [linesSaid, hstage, hreported]
    refine .completed .files hr (by decide) (follows_of_isPrefix (hfinishes hlines) ?_)
      (closes (hlines ▸ h.said) .files ?_ _ _)
    · simp [Tale.script, Tale.ending]
    · rw [dropLast_files]
  | _ =>
    rw [hstage] at hbusy
    exact hbusy.elim

/-- A receiver that has ended says nothing more. -/
lemma Course.next_of_isTerminal (hr : c.receiver.stage.isTerminal = true) (m : Moment) : c.next m = c := by
  simp [Course.next, handle_of_isTerminal hr]

/-- Every answer of a receiver that goes on keeps it in its script. -/
lemma Midway.answers {turn : Turn} (h : Midway settings t c) (hcoherent : c.receiver.Coherent)
    (hsettings : c.receiver.settings = settings) (hturn : Answers env c.receiver event turn) :
    Spoken settings ⟨turn.session, c.said ++ turn.intents.map fun i => (⟨env, event⟩, i)⟩ := by
  have hquiet : ∀ stage, c.receiver.stage = stage → ¬stage.IsBusy → c.receiver.reported = none := by
    rintro stage rfl hbusy
    exact (hcoherent.of_not_busy h.opened hbusy).1
  -- What a session is about is settled as it goes on: each case may change the part of the tale that no line
  -- has told yet.
  cases hturn with
  | published hidle =>
    have hnone := hquiet _ hidle not_false
    have hlines : linesSaid settings t c.receiver = t.opening.take 0 := by simp only [linesSaid, hidle]
    exact .midway (midway_of_quiet (t := t) rfl id hnone (h.fresh hnone) (by simp) (by simp)
      (h.adds _ hlines (.cons ⟨rfl, _, rfl⟩ .nil)))
  | @joins bytes written network port hadvertised hdecode hnetwork hport =>
    have hnone := hquiet _ hadvertised not_false
    let t' : Tale := { t with network, port }
    have hlines : linesSaid settings t c.receiver = t'.opening.take 1 := by
      simp only [linesSaid, hadvertised, Tale.opening, List.take_succ_cons, List.take_zero]
    exact .midway (midway_of_quiet (t := t') rfl id hnone (h.fresh hnone) (by simp [t']) (by simp)
      (h.adds _ hlines (.cons ⟨⟨_, rfl⟩, hport, rfl⟩ .nil)))
  | @connects host port hreceived =>
    have hnone := hquiet _ hreceived not_false
    obtain rfl := h.port port hreceived
    have hlines : linesSaid settings t c.receiver = t.opening.take 2 := by simp only [linesSaid, hreceived]
    exact .midway (midway_of_quiet (t := t) rfl id hnone (h.fresh hnone) (by simp) (by simp)
      (h.adds _ hlines (.cons ⟨host, rfl, rfl⟩ .nil)))
  | connected hjoined =>
    have hnone := hquiet _ hjoined not_false
    have hlines : linesSaid settings t c.receiver = t.opening.take 3 := by simp only [linesSaid, hjoined]
    exact .midway (midway_of_quiet (t := t) rfl id hnone (h.fresh hnone) (by simp) (by simp)
      (h.adds [] hlines .nil))
  | @negotiated bytes reply sequence body offer ack ch₁ ch₂ ch₃ hconnected hreceive hread hversion hagree hack =>
    have hnone := hquiet _ hconnected not_false
    let t' : Tale := { t with first := sequence }
    have hlines : linesSaid settings t c.receiver = t'.opening.take 3 := by
      simp only [linesSaid, hconnected]
      rfl
    obtain ⟨hheader, -, hnext, -, hlast⟩ := Channel.receive_action hreceive
    obtain ⟨hnext', hlast'⟩ := numbers_agreement hagree
    obtain ⟨hcarries, hnext'', -, hlast''⟩ := Channel.carries_sendAck hack
    have hbrings : Moment.Brings ⟨env, .frame bytes⟩ .action sequence .versionNegotiation := ⟨_, rfl, hheader⟩
    refine .midway (midway_of_quiet (t := t') rfl id hnone ?_ (by simp) (fun _ => ?_)
      (h.adds _ hlines (.cons ⟨hbrings, ack, reply, rfl, hcarries⟩ (.cons ⟨hbrings, _, _, rfl⟩ .nil))))
    · rw [hnext'', hnext', hnext, h.fresh hnone]
    · rw [hlast'', hlast', hlast]
  | @declined bytes reply sequence body offer ch₁ ch₂ hconnected hreceive hread hversion hack =>
    let t' : Tale := { t with first := sequence }
    have hlines : linesSaid settings t c.receiver = t'.opening.take 3 := by
      simp only [linesSaid, hconnected]
      rfl
    obtain ⟨hheader, -⟩ := Channel.receive_action hreceive
    obtain ⟨hcarries, -⟩ := Channel.carries_sendAck hack
    have hsaid : List.Forall₂ Fits (c.said ++ [(⟨env, .frame bytes⟩, .send reply)]) (t'.opening.take 4) :=
      h.adds _ hlines (.cons ⟨⟨_, rfl, hheader⟩, answer c.receiver.settings offer, reply, rfl, hcarries⟩ .nil)
    refine .failed (t := t') .text rfl (by decide) ?_
    simpa [fail] using closes hsaid .text ((List.take_prefix 4 _).trans (opening_isPrefix settings t')) _ _
  | @downloads bytes reply sequence body request id ch₁ ch₂ hnegotiated hreceive hread htask hack htext hauto =>
    obtain ⟨hnone, hfresh⟩ := h.unsent hcoherent hnegotiated hreceive hack
    let t' : Tale := { t with second := sequence, request, id }
    rw [hsettings] at hauto
    have hdownloads : Moment.Announces ⟨env, .frame bytes⟩ sequence request →
        List.Forall₂ (fun i line => line ⟨env, .frame bytes⟩ i) [.download id] (t'.downloading settings) := by
      intro hannounces
      rw [Tale.downloading, if_pos hauto]
      exact .cons ⟨hannounces, htext, rfl⟩ .nil
    have hsaid := h.acknowledges hnegotiated hreceive hread htask hack (rfl : t' = _) _ hdownloads
    refine .midway (t := t') ⟨rfl, by simp, by simp, fun _ => ⟨rfl, htask⟩, by simp, by simp [hnone],
      fun _ => hfresh, by simp [hnone], ?_⟩
    simpa [linesSaid, hnone] using hsaid
  | @asks bytes reply sequence body request id ch₁ ch₂ hnegotiated hreceive hread htask hack htext hauto =>
    obtain ⟨hnone, hfresh⟩ := h.unsent hcoherent hnegotiated hreceive hack
    let t' : Tale := { t with second := sequence, request, id }
    rw [hsettings] at hauto
    have hsaid := h.acknowledges hnegotiated hreceive hread htask hack (rfl : t' = _) [t'.asking settings]
      fun hannounces => .cons ⟨hauto, hannounces, htext, rfl⟩ .nil
    refine .midway (t := t') ⟨rfl, by simp, by simp, fun _ => ⟨rfl, htask⟩, fun _ _ => hauto, by simp [hnone],
      fun _ => hfresh, by simp [hnone], ?_⟩
    simpa [linesSaid, hnone] using hsaid
  | @shows bytes reply report sequence body request id text ch₁ ch₂ ch₃ hnegotiated hreceive hread htask hack
      htext hsend =>
    obtain ⟨-, hfresh⟩ := h.unsent hcoherent hnegotiated hreceive hack
    let t' : Tale := { t with second := sequence, request, id }
    obtain ⟨hcarries, -, hpending, -⟩ := Channel.carries_sendAction hsend
    rw [hfresh] at hcarries hpending
    have hsaid := h.acknowledges hnegotiated hreceive hread htask hack (rfl : t' = _)
      ((t'.ending settings .text).take 2) fun hannounces =>
      .cons ⟨hannounces, text, htext, rfl⟩ (.cons ⟨hannounces, _, report, rfl, hcarries⟩ .nil)
    exact .midway (t := t') ⟨rfl, by simp, by simp, fun _ => ⟨rfl, htask⟩, by simp, by simp, by simp,
      fun _ => hpending, hsaid⟩
  | @unreported bytes reply sequence body request id text e ch₁ ch₂ channel hnegotiated hreceive hread htask hack
      htext =>
    let t' : Tale := { t with second := sequence, request, id }
    have hsaid := h.acknowledges hnegotiated hreceive hread htask hack (rfl : t' = _)
      ((t'.ending settings .text).take 1) fun hannounces =>
      .cons ⟨hannounces, text, htext, rfl⟩ .nil
    refine .failed (t := t') .text rfl (by decide) ?_
    have hprefix : t'.opening ++ (t'.ending settings .text).take 1 <+: (t'.script settings .text).dropLast := ⟨_, rfl⟩
    simpa [fail] using closes hsaid .text hprefix _ _
  | @accepts id hrequested hawaiting htask =>
    have hbusy : c.receiver.stage.IsBusy := by rw [hrequested]; trivial
    obtain rfl := h.id_eq hbusy htask
    obtain ⟨-, hnone⟩ := hcoherent.asked h.opened hawaiting
    have hauto := h.asked hrequested hnone
    have hlines : linesSaid settings t c.receiver = t.opening ++ [t.asking settings] := by
      simp only [linesSaid, hrequested, hnone]
    have hsaid := h.adds [fun m i => m.event = .decision true ∧ i = .download t.id]
      (m := ⟨env, .decision true⟩) hlines (.cons ⟨rfl, rfl⟩ .nil)
    refine .midway (t := t) ⟨rfl, by simp, by simp, fun _ => h.request hbusy, by simp, by simp [hnone],
      h.fresh, h.waiting, ?_⟩
    simpa [linesSaid, hnone, Tale.downloading, hauto] using hsaid
  | @refuses id report channel hrequested hawaiting htask hsend =>
    have hbusy : c.receiver.stage.IsBusy := by rw [hrequested]; trivial
    obtain ⟨-, hnone⟩ := hcoherent.asked h.opened hawaiting
    have hauto := h.asked hrequested hnone
    obtain ⟨hreporting, hpending⟩ := h.reports (.decision false) hbusy hnone htask hsend
    have hlines : linesSaid settings t c.receiver = t.opening ++ [t.asking settings] := by
      simp only [linesSaid, hrequested, hnone]
    have hsaid := h.adds [fun m i => m.event = .decision false ∧ Reporting t.id .refused m i] hlines
      (.cons ⟨rfl, hreporting⟩ .nil)
    refine .midway (t := t) ⟨h.opened, h.port, by simp [hrequested], h.request, by simp, by simp [hrequested, hauto],
      by simp, fun _ => hpending, ?_⟩
    simpa [linesSaid, hrequested, Tale.ending] using hsaid
  | @downloaded request id report channel result hdownloading hreported hrequest hfault htask hsend =>
    have hbusy : c.receiver.stage.IsBusy := by rw [hdownloading]; trivial
    obtain ⟨hreporting, hpending⟩ := h.reports (.downloadFinished result) hbusy hreported htask hsend
    have hlines : linesSaid settings t c.receiver = t.opening ++ t.downloading settings := by
      simp only [linesSaid, hdownloading, hreported]
    have hsaid := h.adds [t.reporting .ok] hlines (.cons ⟨⟨result, rfl⟩, hreporting⟩ .nil)
    refine .midway (t := t) ⟨h.opened, h.port, by simp [hdownloading], h.request, by simp, by simp, by simp,
      fun _ => hpending, ?_⟩
    simpa [linesSaid, hdownloading] using hsaid
  | @spoiled request id reason report channel result hdownloading hreported hrequest hfault htask hsend =>
    have hbusy : c.receiver.stage.IsBusy := by rw [hdownloading]; trivial
    obtain ⟨hreporting, -⟩ := h.reports (.downloadFinished result) hbusy hreported htask hsend
    exact h.spoils hdownloading hreported ⟨result, rfl⟩ hreporting rfl rfl
  | @completed bytes body id channel hreceive hreported htask =>
    have hbusy := hcoherent.reported h.opened (by simp [hreported])
    obtain ⟨sequence, hheader, hwaited, -⟩ := Channel.receive_awaited hreceive
    obtain rfl : 100 = sequence := by simpa [h.waiting (by simp [hreported])] using hwaited
    obtain rfl := h.id_eq hbusy htask
    exact h.completes hbusy hreported ⟨⟨bytes, rfl, hheader⟩, rfl⟩ rfl
  | failed channel awaiting reported used =>
    obtain ⟨way, hway, hlines⟩ := h.exists_way
    exact .failed way rfl hway (closes h.said way hlines _ _)

/-- Every event keeps the receiver in its script. -/
theorem Spoken.next (h : Spoken settings c) (hcoherent : c.receiver.Coherent)
    (hsettings : c.receiver.settings = settings) (m : Moment) : Spoken settings (c.next m) := by
  cases h with
  | midway h => exact h.answers hcoherent hsettings (handle_answers m.env h.opened m.event)
  | completed way hstage hway hsaid hcloses =>
    rw [Course.next_of_isTerminal (by simp [hstage, Stage.isTerminal])]
    exact .completed way hstage hway hsaid hcloses
  | failed way hstage hway hcloses =>
    rw [Course.next_of_isTerminal (by simp [hstage, Stage.isTerminal])]
    exact .failed way hstage hway hcloses
  | spoiled hstage hsaid hcloses =>
    rw [Course.next_of_isTerminal (by simp [hstage, Stage.isTerminal])]
    exact .spoiled hstage hsaid hcloses

/-! ### Whole sessions -/

/-- What a receiver has said goes with its stage, whatever it was given. -/
lemma spoken_run (settings : Settings) (ms : List Moment) :
    Reaches settings (Course.run { receiver := { settings } } ms).receiver ∧
      Spoken settings (Course.run { receiver := { settings } } ms) := by
  -- That the receiver is coherent is kept along with what it has said.
  induction ms using List.reverseRecOn with
  | nil => exact ⟨.start, spoken_start settings⟩
  | append_singleton ms m ih =>
    obtain ⟨hreaches, hspoken⟩ := ih
    rw [Course.run, List.foldl_append]
    exact ⟨hreaches.handle m.env m.event, hspoken.next hreaches.coherent hreaches.settings m⟩

/-- What a receiver has said follows a script, or breaks one off. -/
lemma Spoken.follows (h : Spoken settings c) :
    ∃ (t : Tale) (way : Way), Follows (t.script settings way) c.said ∨
      way ≠ .spoiled ∧ ∃ e, ClosesWith (t.script settings way) c.said (.finished (.error e)) := by
  cases h with
  | @midway t h =>
    obtain ⟨way, hway, hlines⟩ := h.exists_way
    exact ⟨t, way, .inl (follows_of_isPrefix h.said (hlines.trans (List.dropLast_prefix _)))⟩
  | completed way hstage hway hsaid hcloses => exact ⟨_, _, .inl hsaid⟩
  | failed way hstage hway hcloses => exact ⟨_, _, .inr ⟨hway, _, hcloses⟩⟩
  | spoiled hstage hsaid hcloses => exact ⟨_, _, .inl hsaid⟩

/-- What a receiver has said is the start of a script, and at most one failure. -/
lemma Spoken.exists_front (h : Spoken settings c) :
    ∃ (t : Tale) (way : Way) (front : List (Moment × Intent)), Follows (t.script settings way) front ∧
      (c.said = front ∨ ∃ m e, c.said = front ++ [(m, .finished (.error e))]) := by
  obtain ⟨t, way, hsaid | ⟨-, e, front, m, heq, hfront⟩⟩ := h.follows
  · exact ⟨t, way, c.said, hsaid, .inl rfl⟩
  · exact ⟨t, way, front, hfront.of_isPrefix (List.dropLast_prefix _), .inr ⟨m, e, heq⟩⟩

/-! ### What only some lines ask for -/

/-- The intent is to send a frame about the outcome of a task. -/
def Intent.isReport : Intent → Bool
  | .send bytes =>
    match Frame.decode bytes with
    | .ok f => f.action = .status
    | .error _ => false
  | _ => false

/-- The intent is to download files. -/
def Intent.isDownload : Intent → Bool
  | .download _ => true
  | _ => false

/-- The session has ended. -/
def Intent.isFinished : Intent → Bool
  | .finished _ => true
  | _ => false

/-- A frame of another action is no report. -/
lemma isReport_of_hasHeader {bytes : Bytes} {kind : Frame.Kind} {sequence : UInt32} {action : Action}
    (h : Frame.HasHeader kind sequence action bytes) (haction : action ≠ .status) :
    Intent.isReport (.send bytes) = false := by
  obtain ⟨payload, hdecode⟩ := h
  simp [Intent.isReport, hdecode, haction]

variable {line : Line} {m : Moment} {i : Intent}

/-- The opening knows of no report, no download and no end. -/
lemma of_mem_opening (hline : line ∈ t.opening) (h : line m i) :
    i.isReport = false ∧ i.isDownload = false ∧ i.isFinished = false := by
  simp only [Tale.opening, List.mem_cons, List.not_mem_nil, or_false] at hline
  obtain rfl | rfl | rfl | rfl | rfl | rfl := hline
  · obtain ⟨-, bytes, rfl⟩ := h
    exact ⟨rfl, rfl, rfl⟩
  · obtain ⟨-, -, rfl⟩ := h
    exact ⟨rfl, rfl, rfl⟩
  · obtain ⟨host, -, rfl⟩ := h
    exact ⟨rfl, rfl, rfl⟩
  · obtain ⟨-, ack, bytes, rfl, hcarries⟩ := h
    have hheader := hcarries.hasHeader (ack.isReadable_toJson.mono (by decide))
    exact ⟨isReport_of_hasHeader hheader (by decide), rfl, rfl⟩
  · obtain ⟨-, version, mode, rfl⟩ := h
    exact ⟨rfl, rfl, rfl⟩
  · obtain ⟨-, -, -, rfl⟩ := h
    exact ⟨isReport_of_hasHeader ⟨_, Frame.decode_encode_empty _ _ _⟩ (by decide), rfl, rfl⟩

/-- Asking the user is no report, no download and no end. -/
lemma of_asking (h : t.asking settings m i) :
    i.isReport = false ∧ i.isDownload = false ∧ i.isFinished = false := by
  obtain ⟨-, -, -, rfl⟩ := h
  exact ⟨rfl, rfl, rfl⟩

/-- The way to a download knows of no report and no end. -/
lemma of_mem_downloading (hline : line ∈ t.downloading settings) (h : line m i) :
    i.isReport = false ∧ i.isFinished = false := by
  rw [Tale.downloading] at hline
  split at hline
  · obtain rfl := List.mem_singleton.1 hline
    obtain ⟨-, -, rfl⟩ := h
    exact ⟨rfl, rfl⟩
  · obtain rfl | hline := List.mem_cons.1 hline
    · exact ⟨(of_asking h).1, (of_asking h).2.2⟩
    · obtain rfl := List.mem_singleton.1 hline
      obtain ⟨-, rfl⟩ := h
      exact ⟨rfl, rfl⟩

/-- A report is no download and no end. -/
lemma Reporting.isDownload_isFinished {id : String} {outcome : Outcome} (h : Reporting id outcome m i) :
    i.isDownload = false ∧ i.isFinished = false := by
  obtain ⟨reason, bytes, rfl, -⟩ := h
  exact ⟨rfl, rfl⟩

/-- An end is no report and no download. -/
lemma isReport_isDownload_of_finished {result : Except Failure String} (h : i = .finished result) :
    i.isReport = false ∧ i.isDownload = false := by
  subst h
  exact ⟨rfl, rfl⟩

/-! ### Reports -/

/-- A script with one report behind its opening reports once at most. -/
lemma countP_isReport_le_one_of (middle : List Line) {report ending : Line} {said : List (Moment × Intent)}
    (h : Follows (t.opening ++ (middle ++ [report, ending])) said)
    (hmiddle : ∀ line ∈ middle, ∀ m i, line m i → i.isReport = false)
    (hending : ∀ m i, ending m i → ∃ result, i = .finished result) :
    said.countP (fun x => x.2.isReport) ≤ 1 := by
  rw [← List.append_assoc] at h
  refine h.countP_le_one fun line hline m i hi => ?_
  obtain hline | hline := List.mem_append.1 hline
  · obtain hline | hline := List.mem_append.1 hline
    · exact (of_mem_opening hline hi).1
    · exact hmiddle line hline m i hi
  · obtain rfl := List.mem_singleton.1 hline
    obtain ⟨result, hresult⟩ := hending m i hi
    exact (isReport_isDownload_of_finished hresult).1

/-- A receiver reports once at most. -/
lemma countP_isReport_le_one {way : Way} {said : List (Moment × Intent)}
    (h : Follows (t.script settings way) said) : said.countP (fun x => x.2.isReport) ≤ 1 := by
  have hdownloading : ∀ line ∈ t.downloading settings, ∀ m i, line m i → Intent.isReport i = false :=
    fun line hline m i hi => (of_mem_downloading hline hi).1
  cases way with
  | text =>
    refine countP_isReport_le_one_of ((t.ending settings .text).take 1) h ?_ fun m i hi => ⟨_, hi.2⟩
    intro line hline m i hi
    obtain rfl := List.mem_singleton.1 hline
    obtain ⟨-, text, -, rfl⟩ := hi
    rfl
  | files => exact countP_isReport_le_one_of _ h hdownloading fun m i hi => ⟨_, hi.2⟩
  | spoiled =>
    refine countP_isReport_le_one_of _ h hdownloading fun m i hi => ?_
    obtain ⟨e, -, rfl⟩ := hi
    exact ⟨_, rfl⟩
  | refused =>
    refine countP_isReport_le_one_of [t.asking settings] h ?_ fun m i hi => ?_
    · intro line hline m i hi
      obtain rfl := List.mem_singleton.1 hline
      exact (of_asking hi).1
    · obtain ⟨-, e, -, rfl⟩ := hi
      exact ⟨_, rfl⟩

/-! ### Consent -/

/-- A text is shown, or files are refused, with no download. -/
lemma download_notMem {said : List (Moment × Intent)} {way : Way} (hway : way = .text ∨ way = .refused)
    (h : Follows (t.script settings way) said) (m : Moment) (id : String) : (m, .download id) ∉ said := by
  refine h.notMem fun line hline hi => ?_
  obtain hline | hline := List.mem_append.1 hline
  · cases (of_mem_opening hline hi).2.1
  obtain rfl | rfl := hway
  all_goals
    simp only [Tale.ending, List.mem_cons, List.not_mem_nil, or_false] at hline
    obtain rfl | rfl | rfl := hline
  · obtain ⟨-, text, -, hi⟩ := hi
    cases hi
  · cases hi.2.isDownload_isFinished.1
  · cases hi.2
  · cases (of_asking hi).2.1
  · cases hi.2.isDownload_isFinished.1
  · obtain ⟨-, e, -, hi⟩ := hi
    cases hi

/-- Where the user is asked, the opening and the question come before a download, and none behind it. -/
lemma exists_script_eq (hauto : settings.autoAccept = false) {way : Way} (hway : way = .files ∨ way = .spoiled) :
    ∃ rest, t.script settings way =
        (t.opening ++ [t.asking settings]) ++ (fun m i => m.event = .decision true ∧ i = .download t.id) :: rest ∧
      ∀ line ∈ rest, ∀ m i, line m i → Intent.isDownload i = false := by
  obtain rfl | rfl := hway
  · refine ⟨[t.reporting .ok, t.finishing], by simp [Tale.script, Tale.ending, Tale.downloading, hauto], ?_⟩
    simp only [List.mem_cons, List.not_mem_nil, or_false]
    rintro line (rfl | rfl) m i hi
    · exact hi.2.isDownload_isFinished.1
    · exact (isReport_isDownload_of_finished hi.2).2
  · refine ⟨[t.reporting .error, fun _ i => ∃ e, e.kind = .streamCorrupted ∧ i = .finished (.error e)],
      by simp [Tale.script, Tale.ending, Tale.downloading, hauto], ?_⟩
    simp only [List.mem_cons, List.not_mem_nil, or_false]
    rintro line (rfl | rfl) m i hi
    · exact hi.2.isDownload_isFinished.1
    · obtain ⟨e, -, rfl⟩ := hi
      rfl

/-- Where the user is asked, a download answers the decision for the files, and comes behind the question. -/
lemma consent_of_follows {way : Way} {before after : List (Moment × Intent)} {m : Moment} {id : String}
    (h : Follows (t.script settings way) (before ++ (m, .download id) :: after))
    (hauto : settings.autoAccept = false) :
    m.event = .decision true ∧ ∃ m' request, (m', .confirmRequest request) ∈ before := by
  have hway : way = .files ∨ way = .spoiled := by
    have hmem : (m, Intent.download id) ∈ before ++ (m, .download id) :: after := by simp
    cases way with
    | text => exact absurd hmem (download_notMem (.inl rfl) h m id)
    | refused => exact absurd hmem (download_notMem (.inr rfl) h m id)
    | files => exact .inl rfl
    | spoiled => exact .inr rfl
  obtain ⟨rest, hscript, hrest⟩ := exists_script_eq (t := t) hauto hway
  rw [hscript] at h
  have hnone : ∀ line ∈ t.opening ++ [t.asking settings] ++ rest, ∀ m i, line m i → i.isDownload = false := by
    intro line hline m i hi
    obtain hline | hline := List.mem_append.1 hline
    · obtain hline | hline := List.mem_append.1 hline
      · exact (of_mem_opening hline hi).2.1
      · obtain rfl := List.mem_singleton.1 hline
        exact (of_asking hi).2.1
    · exact hrest line hline m i hi
  obtain ⟨hplace, hevent, -⟩ := h.eq_of_getElem? hnone (x := (m, .download id)) (i := before.length) (by simp) rfl
  -- The question is the last thing that was said before.
  have hlast : before.length - 1 < before.length := by rw [hplace]; simp
  obtain ⟨line, hline, hfits⟩ := h.fits_getElem? (i := before.length - 1) (x := before[before.length - 1])
    (by rw [List.getElem?_append_left hlast, List.getElem?_eq_getElem hlast])
  rw [hplace, List.append_assoc] at hline
  obtain rfl : t.asking settings = line := by simpa using hline
  obtain ⟨-, -, -, hasked⟩ := hfits
  exact ⟨hevent, before[before.length - 1].1, t.request, by rw [← hasked]; exact List.getElem_mem hlast⟩

/-! ### The end of a session -/

/-- No line before the last one says that the session has ended. -/
lemma not_finished_of_mem_script {way : Way} (hline : line ∈ (t.script settings way).dropLast)
    {result : Except Failure String} : ¬line m (.finished result) := by
  have hlines : (t.script settings way).dropLast = t.opening ++ (t.ending settings way).dropLast := by
    rw [Tale.script, List.dropLast_append_of_ne_nil]
    cases way <;> simp [Tale.ending]
  intro hi
  rw [hlines] at hline
  obtain hline | hline := List.mem_append.1 hline
  · cases (of_mem_opening hline hi).2.2
  have hdownloads : ∀ outcome, line ∈ t.downloading settings ++ [t.reporting outcome] → False := by
    intro outcome hline
    obtain hline | hline := List.mem_append.1 hline
    · cases (of_mem_downloading hline hi).2
    · obtain rfl := List.mem_singleton.1 hline
      cases hi.2.isDownload_isFinished.2
  cases way with
  | text =>
    simp only [Tale.ending, List.dropLast_cons_cons, List.dropLast_singleton, List.mem_cons, List.not_mem_nil,
      or_false] at hline
    obtain rfl | rfl := hline
    · obtain ⟨-, text, -, hi⟩ := hi
      cases hi
    · cases hi.2.isDownload_isFinished.2
  | files => exact hdownloads .ok (by simpa [Tale.ending] using hline)
  | spoiled => exact hdownloads .error (by simpa [Tale.ending] using hline)
  | refused =>
    simp only [Tale.ending, List.dropLast_cons_cons, List.dropLast_singleton, List.mem_cons, List.not_mem_nil,
      or_false] at hline
    obtain rfl | rfl := hline
    · cases (of_asking hi).2.2
    · cases hi.2.isDownload_isFinished.2

/-- A receiver that is in the middle of its script has not said that it has finished. -/
lemma Midway.not_finished (h : Midway settings t c) (m : Moment) (result : Except Failure String) :
    (m, .finished result) ∉ c.said := by
  obtain ⟨way, -, hlines⟩ := h.exists_way
  exact (follows_of_isPrefix h.said hlines).notMem fun line hline => not_finished_of_mem_script hline

/-- The stage in which a session has ended. -/
def endedStage : Except Failure String → Stage
  | .ok _ => .completed
  | .error e => .failed e

/-- A receiver that has said that it has ended is in the stage of its result. -/
lemma Spoken.stage_eq (h : Spoken settings c) {result : Except Failure String}
    (hmem : (m, .finished result) ∈ c.said) : c.receiver.stage = endedStage result := by
  cases h with
  | midway h => exact absurd hmem (h.not_finished m result)
  | completed way hstage hway hsaid hcloses =>
    cases hcloses.eq_of_mem (fun line hline => not_finished_of_mem_script hline) hmem
    exact hstage
  | failed way hstage hway hcloses =>
    cases hcloses.eq_of_mem (fun line hline => not_finished_of_mem_script hline) hmem
    exact hstage
  | spoiled hstage hsaid hcloses =>
    cases hcloses.eq_of_mem (fun line hline => not_finished_of_mem_script hline) hmem
    exact hstage

/-- A receiver that has ended has said so. -/
lemma Spoken.exists_finished (h : Spoken settings c) (hr : c.receiver.stage.isTerminal = true) :
    ∃ m result, (m, .finished result) ∈ c.said := by
  cases h with
  | midway h =>
    rw [h.opened] at hr
    cases hr
  | completed way hstage hway hsaid hcloses =>
    obtain ⟨m, hmem⟩ := hcloses.exists_mem
    exact ⟨m, _, hmem⟩
  | failed way hstage hway hcloses =>
    obtain ⟨m, hmem⟩ := hcloses.exists_mem
    exact ⟨m, _, hmem⟩
  | spoiled hstage hsaid hcloses =>
    obtain ⟨m, hmem⟩ := hcloses.exists_mem
    exact ⟨m, _, hmem⟩

/-- A receiver that has ended has said so, with the result of its stage. -/
lemma Spoken.exists_stage_eq (h : Spoken settings c) (hr : c.receiver.stage.isTerminal = true) :
    ∃ m result, (m, .finished result) ∈ c.said ∧ c.receiver.stage = endedStage result := by
  obtain ⟨m, result, hmem⟩ := h.exists_finished hr
  exact ⟨m, result, hmem, h.stage_eq hmem⟩

/-- A receiver has ended exactly if it has said so. -/
lemma Spoken.isTerminal_iff (h : Spoken settings c) :
    c.receiver.stage.isTerminal = true ↔ ∃ m result, (m, .finished result) ∈ c.said := by
  refine ⟨h.exists_finished, ?_⟩
  rintro ⟨m, result, hmem⟩
  rw [h.stage_eq hmem]
  cases result <;> rfl

/-- A receiver has completed exactly if it has said so. -/
lemma Spoken.completed_iff (h : Spoken settings c) :
    c.receiver.stage = .completed ↔ ∃ m id, (m, .finished (.ok id)) ∈ c.said := by
  refine ⟨fun hr => ?_, fun ⟨_, _, hmem⟩ => h.stage_eq hmem⟩
  obtain ⟨m, result, hmem, hstage⟩ := h.exists_stage_eq (by rw [hr]; rfl)
  cases result with
  | ok id => exact ⟨m, id, hmem⟩
  | error e => cases hr.symm.trans hstage

/-- A receiver has failed exactly if it has said so, and with the same failure. -/
lemma Spoken.failed_iff (h : Spoken settings c) (e : Failure) :
    c.receiver.stage = .failed e ↔ ∃ m, (m, .finished (.error e)) ∈ c.said := by
  refine ⟨fun hr => ?_, fun ⟨_, hmem⟩ => h.stage_eq hmem⟩
  obtain ⟨m, result, hmem, hstage⟩ := h.exists_stage_eq (by rw [hr]; rfl)
  cases result with
  | ok id => cases hr.symm.trans hstage
  | error e' =>
    cases hr.symm.trans hstage
    exact ⟨m, hmem⟩

/-! ### Whatever a receiver is given -/

/-- Where the user is asked, a download answers the decision for the files, and comes behind the question. -/
lemma Spoken.consent (h : Spoken settings c) (hauto : settings.autoAccept = false)
    {before after : List (Moment × Intent)} {id : String} (hsaid : c.said = before ++ (m, .download id) :: after) :
    m.event = .decision true ∧ ∃ m' request, (m', .confirmRequest request) ∈ before := by
  obtain ⟨t, way, front, hfront, rfl | ⟨m', e, heq⟩⟩ := h.exists_front
  · rw [hsaid] at hfront
    exact consent_of_follows hfront hauto
  · rw [hsaid] at heq
    -- The failure comes last, so the download is before it.
    obtain rfl | ⟨after, last, rfl⟩ := List.eq_nil_or_concat after
    · cases (List.append_inj' heq rfl).2
    · rw [List.concat_eq_append, ← List.cons_append, ← List.append_assoc] at heq
      rw [← (List.append_inj' heq rfl).1] at hfront
      exact consent_of_follows hfront hauto

/-- A receiver reports once at most. -/
lemma Spoken.countP_isReport_le_one (h : Spoken settings c) : c.said.countP (fun x => x.2.isReport) ≤ 1 := by
  obtain ⟨t, way, front, hfront, heq | ⟨m, e, heq⟩⟩ := h.exists_front
  · rw [heq]
    exact Receiver.countP_isReport_le_one hfront
  · rw [heq, List.countP_append, List.countP_singleton]
    simpa [Intent.isReport] using Receiver.countP_isReport_le_one hfront

/-- **The script of receivers, and consent.** Whatever a receiver is given, in whatever order, with whatever
provider each time: what it says is the start of one of four scripts, or a start without the last line and
then one failure. Where the user is to be asked, it downloads only in answer to the decision for the files,
once it has asked. It reports one outcome at most. The session has ended exactly if it has said so, with what
it has said, and then it says nothing more and stays as it is. -/
theorem follows_script_and_consent (settings : Settings) (ms : List Moment) :
    let c := Course.run { receiver := { settings } } ms
    (∃ (t : Tale) (way : Way), Follows (t.script settings way) c.said ∨
      way ≠ .spoiled ∧ ∃ e, ClosesWith (t.script settings way) c.said (.finished (.error e))) ∧
    (settings.autoAccept = false → ∀ before m id after, c.said = before ++ (m, .download id) :: after →
      m.event = .decision true ∧ ∃ m' request, (m', .confirmRequest request) ∈ before) ∧
    c.said.countP (fun x => x.2.isReport) ≤ 1 ∧
    (c.receiver.stage.isTerminal = true ↔ ∃ m result, (m, .finished result) ∈ c.said) ∧
    (c.receiver.stage = .completed ↔ ∃ m id, (m, .finished (.ok id)) ∈ c.said) ∧
    (∀ e, c.receiver.stage = .failed e ↔ ∃ m, (m, .finished (.error e)) ∈ c.said) ∧
    (c.receiver.stage.isTerminal = true → ∀ env event, handle env event c.receiver = { session := c.receiver }) := by
  intro c
  have hspoken : Spoken settings c := (spoken_run settings ms).2
  exact ⟨hspoken.follows, fun hauto before m id after hsaid => hspoken.consent hauto hsaid,
    hspoken.countP_isReport_le_one, hspoken.isTerminal_iff, hspoken.completed_iff, hspoken.failed_iff,
    fun hr env event => handle_of_isTerminal hr event⟩

end DirectShare.Receiver
