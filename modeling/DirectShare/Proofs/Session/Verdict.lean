import Mathlib
import DirectShare.Proofs.Session.Handshake
import DirectShare.Proofs.Session.Script

/-!
# The verdict on a download

A receiver that has downloaded files compares their names with the announcement, and reports a success or an error.
What it compares are two lists in order; what counts is how often each name is in them. A report can be sent at this
point because it is the first action of the channel: until then a receiver has only answered.

`Receiver.Fulfils` says of the result of a download that it is what was announced, and
`Receiver.fault?_eq_none_iff` that these are the results in which the comparison finds no fault.
`Receiver.Reaches.prepared` carries along all events that the channel `IsSilent` until the report and that the
task is known. `Receiver.reports_what_came` computes from both what becomes of a result (`Receiver.Judges`).
-/

namespace DirectShare

/-! ### Silent channels -/

namespace Channel

/-- No action was sent over the channel, and nothing sealed. -/
structure IsSilent (ch : Channel) : Prop where
  nextSequence : ch.nextSequence = 100
  pending : ch.pending = none
  sent : ∀ c, ch.crypto = some c → c.sent = 0

variable {p : Provider} {sequence : UInt32} {action : Action} {body : Option Json} {b : Json} {bytes : Bytes}
  {ch ch' : Channel} {e : Failure}

/-- A new channel has sent nothing. -/
lemma isSilent_start : IsSilent (.start .receiver) := ⟨rfl, rfl, nofun⟩

/-- Receiving an action keeps a channel silent. -/
lemma IsSilent.receive (h : ch.IsSilent)
    (hreceive : Channel.receive p bytes ch = .ok (.action sequence action body) ch') : ch'.IsSilent := by
  obtain ⟨-, -, hnext, hpending, -⟩ := receive_action hreceive
  refine ⟨hnext.trans h.nextSequence, hpending.trans h.pending, ?_⟩
  obtain ⟨f, body', ch'', -, hopen, ⟨-, -, hinbound, -⟩ | ⟨-, -, -, rfl⟩⟩ := receive_ok hreceive
  · cases hinbound
  obtain ⟨-, -, rfl⟩ | ⟨-, -, -, rfl, -⟩ | ⟨-, c, -, -, -, -, hc, -, -, -, -, rfl⟩ := openBody_ok hopen
  · exact h.sent
  · exact h.sent
  · rintro _ ⟨⟩
    exact h.sent c hc

/-- A silent channel sends an action as its frame 100, unless it cannot seal. -/
lemma IsSilent.sendAction_cases (h : ch.IsSilent) (p : Provider) (action : Action) (b : Json) :
    (∃ bytes ch', sendAction p action (some b) ch = .ok bytes ch' ∧ Frame.Carries p .action 100 action b bytes) ∨
      ∃ reason ch', sendAction p action (some b) ch = .error (.crypto reason) ch' ∧ ¬ch.IsSealable p := by
  have hnumber : ch.nextSequence.toNat + 1 < UInt32.size := by
    rw [h.nextSequence]
    decide
  have hroom : ch.HasRoom := by
    intro c hc
    rw [h.sent c hc]
    decide
  cases hsend : sendAction p action (some b) ch with
  | ok bytes ch' =>
    obtain ⟨hcarries, -⟩ := carries_sendAction hsend
    rw [h.nextSequence] at hcarries
    exact .inl ⟨bytes, ch', rfl, hcarries⟩
  | error e ch' =>
    obtain ⟨-, hready, -⟩ | ⟨-, -, reason, rfl⟩ := sendAction_failed hsend
    · exact absurd hnumber (hready h.pending)
    · refine .inr ⟨reason, ch', rfl, fun hp => ?_⟩
      obtain ⟨bytes, ch'', hsent⟩ := exists_sendAction hp hroom h.pending hnumber action b
      rw [hsend] at hsent
      cases hsent

end Channel

namespace Receiver

variable {env : Surroundings} {settings : Settings} {r : Receiver} {event : Event} {request : SendRequest} {id : String}
  {result : Except String (List String)}

/-! ### Until the report -/

/-- Agreeing on the encryption keeps a channel silent. -/
lemma isSilent_agreement {offer ack : VersionOffer} {ch ch' : Channel} (h : ch.IsSilent)
    (hagree : agreement env settings offer ch = .ok (ack, ch')) : ch'.IsSilent := by
  obtain ⟨-, rfl⟩ | ⟨value, c, c', u, hcreate, hderive, rfl⟩ := agreement_ok hagree
  · exact h
  · obtain ⟨pair, rfl⟩ := CryptoContext.create_eq hcreate
    obtain ⟨key, rfl⟩ := CryptoContext.deriveText_eq hderive
    refine ⟨h.nextSequence, h.pending, ?_⟩
    rintro _ ⟨⟩
    rfl

/-- What holds of a receiver until it has reported something. -/
structure Prepared (r : Receiver) : Prop where
  /-- It has only answered. -/
  silent : r.stage.isTerminal = false → r.reported = none → r.channel.IsSilent
  /-- It knows the task that it downloads. -/
  task : r.stage = .downloading → ∃ request id, r.request = some request ∧ request.task? = some id

/-- A receiver that nothing has happened to is prepared. -/
lemma prepared_start (settings : Settings) : Prepared { settings } := ⟨fun _ _ => Channel.isSilent_start, nofun⟩

/-- A receiver that has failed is prepared. -/
lemma prepared_fail (e : Failure) (t : Turn) : Prepared (fail e t).session := ⟨nofun, nofun⟩

/-- Every event keeps a receiver prepared. -/
lemma Prepared.handle (h : Prepared r) : Prepared (handle env event r).session := by
  cases hr : r.stage.isTerminal with
  | true =>
    rw [handle_of_isTerminal hr]
    exact h
  | false =>
    have hturn := handle_answers env hr event
    revert hturn
    generalize Receiver.handle env event r = t
    intro hturn
    cases hturn with
    | published => exact ⟨fun _ hnone => h.silent hr hnone, nofun⟩
    | joins => exact ⟨fun _ hnone => h.silent hr hnone, nofun⟩
    | connects => exact ⟨fun _ hnone => h.silent hr hnone, nofun⟩
    | connected => exact ⟨fun _ hnone => h.silent hr hnone, nofun⟩
    | negotiated hconnected hreceive hread hversion hagree hack =>
      rw [Channel.sendAck_version] at hack
      cases hack
      exact ⟨fun _ hnone => isSilent_agreement ((h.silent hr hnone).receive hreceive) hagree, nofun⟩
    | downloads hnegotiated hreceive hread htask hack =>
      obtain ⟨-, rfl⟩ := Channel.sendAck_none hack
      exact ⟨fun _ hnone => (h.silent hr hnone).receive hreceive, fun _ => ⟨_, _, rfl, htask⟩⟩
    | asks hnegotiated hreceive hread htask hack =>
      obtain ⟨-, rfl⟩ := Channel.sendAck_none hack
      exact ⟨fun _ hnone => (h.silent hr hnone).receive hreceive, nofun⟩
    | shows => exact ⟨nofun, nofun⟩
    | accepts hrequested hawaiting htask =>
      refine ⟨fun _ hnone => h.silent hr hnone, fun _ => ?_⟩
      obtain ⟨request, hrequest, hid⟩ := Option.bind_eq_some_iff.1 htask
      exact ⟨request, _, hrequest, hid⟩
    | refuses hrequested => exact ⟨nofun, fun hs => h.task hs⟩
    | downloaded hdownloading => exact ⟨nofun, fun hs => h.task hs⟩
    | completed => exact ⟨nofun, nofun⟩
    | declined => exact prepared_fail _ _
    | unreported => exact prepared_fail _ _
    | spoiled => exact prepared_fail _ _
    | failed => exact prepared_fail _ _

/-- Until its report a receiver is silent, and it knows the task that it downloads. -/
theorem Reaches.prepared (h : Reaches settings r) : Prepared r := by
  induction h with
  | start => exact prepared_start settings
  | handle env event _ ih => exact ih.handle

/-! ### Results of downloads -/

/-- The result of a download is what a request announces. -/
def Fulfils (request : SendRequest) (result : Except String (List String)) : Prop :=
  ∃ names, result = .ok names ∧ Complete request names

/-- Nothing is wrong with a result exactly when it is what was announced. -/
theorem fault?_eq_none_iff : fault? request result = none ↔ Fulfils request result := by
  cases result with
  | error reason => simp [fault?, Fulfils]
  | ok names => simp [fault?, Fulfils, mismatch?_eq_none_iff]

/-- The order makes no difference: neither that of the announced files nor that of the downloaded ones. -/
lemma Complete.of_perm {files : List FileSummary} {names names' : List String} (h : Complete request names)
    (hfiles : files.Perm request.files) (hnames : names'.Perm names) : Complete { request with files } names' := by
  cases h with
  | listed hne hperm =>
    refine .listed ?_ (hnames.trans (hperm.trans (hfiles.symm.map _)))
    rintro rfl
    exact hne hfiles.nil_eq.symm
  | counted hnil hcount =>
    refine .counted ?_ (hnames.length_eq.trans hcount)
    rw [hnil] at hfiles
    exact hfiles.eq_nil

/-- What a receiver makes of the result of a download. -/
structure Judges (env : Surroundings) (r : Receiver) (request : SendRequest) (id : String)
    (result : Except String (List String)) (t : Turn) : Prop where
  /-- A report is that of a success if all has come, and that of an error otherwise. -/
  told : ∀ bytes, .send bytes ∈ t.intents → ∃ outcome reason,
    Frame.Carries env.provider .action 100 .status (reportJson id outcome reason) bytes ∧
      (outcome = .ok ∧ Fulfils request result ∨ outcome = .error ∧ ¬Fulfils request result)
  /-- If all has come, the report is sent and the session goes on. -/
  confirmed : Fulfils request result → (∀ e, t.session.stage ≠ .failed (.crypto e)) →
    ∃ bytes, t.intents = [.send bytes] ∧ t.session.stage = .downloading ∧ t.session.reported = some .ok
  /-- Otherwise the report is sent and the session fails. -/
  spoiled : ¬Fulfils request result → (∀ e, t.session.stage ≠ .failed (.crypto e)) →
    ∃ bytes e, t.intents = [.send bytes, .finished (.error e)] ∧ t.session.stage = .failed e ∧
      e.kind = .streamCorrupted
  /-- The encryption does not fail if there is none, or everything can be sealed. -/
  sealable : r.channel.IsSealable env.provider → ∀ e, t.session.stage ≠ .failed (.crypto e)

/-- A receiver that cannot seal its verdict fails. -/
lemma judges_unsealed (hp : ¬r.channel.IsSealable env.provider) (reason : CryptoError) (r' : Receiver) :
    Judges env r request id result (fail (.crypto reason) { session := r' }) where
  told bytes hsent := by simp [fail] at hsent
  confirmed _ hsealed := absurd rfl (hsealed reason)
  spoiled _ hsealed := absurd rfl (hsealed reason)
  sealable hall := absurd hall hp

/-- The result of a download is judged by the announcement. -/
lemma judges (hs : r.stage = .downloading) (hreported : r.reported = none) (hrequest : r.request = some request)
    (htask : request.task? = some id) (hsilent : r.channel.IsSilent) (env : Surroundings)
    (result : Except String (List String)) :
    Judges env r request id result (r.handle env (.downloadFinished result)) := by
  have htask' : r.task? = some id := by
    rw [task?, hrequest]
    exact htask
  rw [handle_eq (by rw [hs]; rfl) (by simp : Event.downloadFinished result ≠ .abort),
    step_downloadFinished hs hreported]
  simp only [onDownloadFinished, Steps.bind_apply, Act.session_apply, hrequest]
  cases hfault : fault? request result with
  | none =>
    have hcome := fault?_eq_none_iff.1 hfault
    simp only [report_apply, htask']
    obtain ⟨bytes, ch, hsend, hcarries⟩ | ⟨reason, ch, hsend, hp⟩ :=
      hsilent.sendAction_cases env.provider .status (reportJson id .ok "")
    · simp only [hsend]
      refine ⟨fun bytes' hsent => ?_, fun _ _ => ⟨bytes, rfl, hs, rfl⟩, fun hmissing => absurd hcome hmissing, ?_⟩
      · obtain rfl : bytes' = bytes := by simpa [conclude] using hsent
        exact ⟨.ok, "", hcarries, .inl ⟨rfl, hcome⟩⟩
      · intro _ e
        simp [conclude, hs]
    · simp only [hsend]
      exact judges_unsealed hp reason _
  | some reason =>
    have hmissing : ¬Fulfils request result := by
      rw [← fault?_eq_none_iff, hfault]
      exact Option.some_ne_none reason
    simp only [Steps.bind_apply, report_apply, htask']
    obtain ⟨bytes, ch, hsend, hcarries⟩ | ⟨reason', ch, hsend, hp⟩ :=
      hsilent.sendAction_cases env.provider .status (reportJson id .error reason)
    · simp only [hsend]
      refine ⟨fun bytes' hsent => ?_, fun hcome => absurd hcome hmissing, fun _ _ => ⟨bytes, _, rfl, rfl, rfl⟩, ?_⟩
      · obtain rfl : bytes' = bytes := by simpa [conclude, fail] using hsent
        exact ⟨.error, reason, hcarries, .inr ⟨rfl, hmissing⟩⟩
      · intro _ e
        simp [conclude, fail]
    · simp only [hsend]
      exact judges_unsealed hp reason' _

/-- A receiver that downloads and has not reported yet knows its task. It reports a success just if the downloaded
files are the announced ones, in whatever order both lists are, and otherwise reports an error and fails. -/
theorem reports_what_came (h : Reaches settings r) (hs : r.stage = .downloading) (hreported : r.reported = none) :
    ∃ request id, r.request = some request ∧ request.task? = some id ∧
      (∀ env result, Judges env r request id result (r.handle env (.downloadFinished result))) ∧
      ∀ files names names', files.Perm request.files → names'.Perm names →
        (fault? { request with files } (.ok names') = none ↔ fault? request (.ok names) = none) := by
  obtain ⟨request, id, hrequest, htask⟩ := h.prepared.task hs
  have hsilent := h.prepared.silent (by rw [hs]; rfl) hreported
  refine ⟨request, id, hrequest, htask, judges hs hreported hrequest htask hsilent, ?_⟩
  intro files names names' hfiles hnames
  show mismatch? { request with files } names' = none ↔ mismatch? request names = none
  rw [mismatch?_eq_none_iff, mismatch?_eq_none_iff]
  constructor
  · intro hcomplete
    exact hcomplete.of_perm hfiles.symm hnames.symm
  · intro hcomplete
    exact hcomplete.of_perm hfiles hnames

/-- An announcement that lists one name twice. -/
def twiceListed : SendRequest :=
  SharedTask.announce
    { id := "t"
      files := [.ofBytes "a" "text/plain" [97], .ofBytes "b" "text/plain" [], .ofBytes "a" "text/plain" [98]] }
    2 "s" "left"

/-- A receiver that downloads these files. -/
lemma exists_downloading :
    ∃ r, Reaches { deviceName := "right", maxVersion := 3 } r ∧ r.stage = .downloading ∧ r.reported = none ∧
      r.request = some twiceListed ∧ r.channel.crypto = none := by
  let env := Handshake.idealSurroundings []
  let sender : Settings := { deviceName := "left", encryption := false }
  obtain ⟨r, h, hs, hchannel, hreported, hauto⟩ :
      ∃ r, Reaches { deviceName := "right", maxVersion := 3 } r ∧ r.stage = .versionNegotiated ∧
        r.channel = Handshake.answering none ∧ r.reported = none ∧ r.settings.autoAccept = true := by
    have h := Handshake.reaches_connectedReceiver.handle env (.frame (Handshake.offerFrame sender none))
    rw [Handshake.handle_offer (S := sender) rfl rfl ⟨env, rfl⟩
      (Handshake.settled_plain env.provider env rfl fun _ => rfl) (by decide)] at h
    exact ⟨_, h, rfl, rfl, rfl, rfl⟩
  let announcement : Frame := ⟨.action, 1, .sendRequest, .json (Json.Record.toJson twiceListed)⟩
  have hreceive : Channel.receive env.provider announcement.encode r.channel = _ :=
    Channel.receive_of_action (twiceListed.isReadable_toJson.mono (by decide)) rfl
      (by simp [hchannel, Handshake.answering, announcement])
      (Channel.openBody_plain rfl (.inl (by rw [hchannel]; rfl)))
  have hturn := handle_of_answers (by rw [hs]; rfl)
    (.downloads hs hreceive (Channel.readBody_of_ofJson? twiceListed.ofJson?_toJson) rfl Channel.sendAck_empty rfl
      hauto)
    nofun
  have h' := h.handle env (.frame announcement.encode)
  rw [hturn] at h'
  exact ⟨_, h', rfl, hreported, rfl, by rw [hchannel]; rfl⟩

/-- Names in another order are the announced ones, and names of which another one comes twice are not. -/
theorem reports_what_came_twice :
    let env := Handshake.idealSurroundings []
    ∃ r, Reaches { deviceName := "right", maxVersion := 3 } r ∧ r.request = some twiceListed ∧
      (∃ bytes, (r.handle env (.downloadFinished (.ok ["b", "a", "a"]))).intents = [.send bytes]) ∧
      ∃ bytes e, (r.handle env (.downloadFinished (.ok ["a", "b", "b"]))).intents =
        [.send bytes, .finished (.error e)] ∧ e.kind = .streamCorrupted := by
  intro env
  obtain ⟨r, h, hs, hreported, hrequest, hplain⟩ := exists_downloading
  obtain ⟨request, id, hrequest', -, hjudges, -⟩ := reports_what_came h hs hreported
  obtain rfl : twiceListed = request := Option.some.inj (hrequest.symm.trans hrequest')
  have hsealable : r.channel.IsSealable env.provider := by
    intro c key hc
    rw [hplain] at hc
    cases hc
  have hright : Fulfils twiceListed (.ok ["b", "a", "a"]) := ⟨_, rfl, .listed (by decide) (by decide)⟩
  have hwrong : ¬Fulfils twiceListed (.ok ["a", "b", "b"]) := by
    rintro ⟨_, ⟨⟩, hcomplete⟩
    cases hcomplete with
    | listed _ hperm => exact absurd hperm (by decide)
    | counted hnil => exact absurd hnil (by decide)
  have hgood := hjudges env (.ok ["b", "a", "a"])
  have hbad := hjudges env (.ok ["a", "b", "b"])
  obtain ⟨bytes, hintents, -⟩ := hgood.confirmed hright (hgood.sealable hsealable)
  obtain ⟨bytes', e, hintents', -, hkind⟩ := hbad.spoiled hwrong (hbad.sealable hsealable)
  exact ⟨r, h, hrequest, ⟨bytes, hintents⟩, bytes', e, hintents', hkind⟩

end Receiver

end DirectShare
