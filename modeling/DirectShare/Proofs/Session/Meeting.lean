import Mathlib
import DirectShare.Proofs.Session.Transfer

/-!
# How the two sides of a transfer meet

Until its channel is open, each side sees its own events one after the other. The sender waits for what the
receiver publishes, and the receiver for the credentials that the sender writes; apart from that both go on
independently, until the sender has sent its offer and the receiver can take it.

`Transfer.SenderMeets` and `Transfer.ReceiverMeets` have one case for each number of events that a side has
seen. `Transfer.SenderMeets.handle` and `Transfer.ReceiverMeets.handle` go on from each case to the next, and
`Transfer.exists_event` finds a side that can go on, until both channels are open.
-/

namespace DirectShare.Transfer

open Handshake (offering offerFrame handle_channelOpened share_of_generate)

variable {plan : Plan}

/-! ### On the way to an open channel -/

/-- The device description of a receiver that has published a key, or none. -/
def published (plan : Plan) (k : Option CredentialKey) : Bytes :=
  Json.Record.encode (Receiver.deviceInfo plan.receiver (k.map (·.publicText plan.tools.suite)))

/-- A sender on its way to an open channel: how many of its events it has seen, what has become of it and of
the table, and what it has said and sent. The receiver may have published its key, or none. -/
inductive SenderMeets (plan : Plan) :
    Option (Option CredentialKey) → Nat → Sender → TaskTable → List Sender.Intent → List Bytes → Prop
  | idle {known : Option (Option CredentialKey)} {table : TaskTable} :
      table.find? plan.task.id = none →
      SenderMeets plan known 0 { settings := plan.sender, id := plan.id } table [] []
  | advertising {known : Option (Option CredentialKey)} {table : TaskTable} :
      table.Has plan.task .offered →
      SenderMeets plan known 1
        { settings := plan.sender, id := plan.id, stage := .advertising, job := some plan.job } table
        [.readDeviceInfo] []
  | described {k : Option CredentialKey} {table : TaskTable} {info : DeviceInfo} {written : NetworkInfo} :
      table.Has plan.task .offered → plan.Opens k written →
      SenderMeets plan (some k) 2
        { settings := plan.sender, id := plan.id, stage := .advertising, job := some plan.job,
          peer := some info }
        table [.readDeviceInfo, .writeCredentials (Json.Record.encode written)] []
  | awaiting {k : Option CredentialKey} {table : TaskTable} {info : DeviceInfo} {written : NetworkInfo} :
      table.Has plan.task .offered → plan.Opens k written →
      SenderMeets plan (some k) 3
        { settings := plan.sender, id := plan.id, stage := .credentialsWritten, job := some plan.job,
          peer := some info }
        table
        [.readDeviceInfo, .writeCredentials (Json.Record.encode written), .awaitPeer plan.port] []
  | joined {k : Option CredentialKey} {table : TaskTable} {info : DeviceInfo} {written : NetworkInfo} :
      table.Has plan.task .offered → plan.Opens k written →
      SenderMeets plan (some k) 4
        { settings := plan.sender, id := plan.id, stage := .networkJoinObserved, job := some plan.job,
          peer := some info }
        table
        [.readDeviceInfo, .writeCredentials (Json.Record.encode written), .awaitPeer plan.port] []
  | offered {k : Option CredentialKey} {table : TaskTable} {info : DeviceInfo} {written : NetworkInfo}
      {env : Surroundings} {crypto : Option CryptoContext} :
      table.Has plan.task .offered → plan.Opens k written → plan.Has env →
      Sender.share env plan.sender = .ok crypto →
      SenderMeets plan (some k) 5
        { settings := plan.sender, id := plan.id, stage := .handshakeConnected, channel := offering crypto,
          job := some plan.job, peer := some info }
        table
        [.readDeviceInfo, .writeCredentials (Json.Record.encode written), .awaitPeer plan.port,
          .send (offerFrame plan.sender crypto)]
        [offerFrame plan.sender crypto]

/-- A receiver on its way to an open channel: how many of its events it has seen, what has become of it,
and what it has said. It may have published its key, or none. -/
inductive ReceiverMeets (plan : Plan) :
    Option (Option CredentialKey) → Nat → Receiver → List Receiver.Intent → Prop
  | idle : ReceiverMeets plan none 0 { settings := plan.receiver } []
  | advertised {k : Option CredentialKey} : plan.IsKey k →
      ReceiverMeets plan (some k) 1
        { settings := plan.receiver, stage := .advertised, credentialKey := k }
        [.publishDeviceInfo (published plan k)]
  | called {k : Option CredentialKey} {network : NetworkInfo} : plan.IsKey k →
      ReceiverMeets plan (some k) 2
        { settings := plan.receiver, stage := .credentialsReceived plan.port }
        [.publishDeviceInfo (published plan k), .joinNetwork network]
  | joined {k : Option CredentialKey} {network : NetworkInfo} : plan.IsKey k →
      ReceiverMeets plan (some k) 3
        { settings := plan.receiver, stage := .networkJoined }
        [.publishDeviceInfo (published plan k), .joinNetwork network, .openChannel plan.host plan.port]
  | connected {k : Option CredentialKey} {network : NetworkInfo} : plan.IsKey k →
      ReceiverMeets plan (some k) 4
        { settings := plan.receiver, stage := .handshakeConnected }
        [.publishDeviceInfo (published plan k), .joinNetwork network, .openChannel plan.host plan.port]

/-! ### What either side learns from the other one -/

section Meeting

variable {known : Option (Option CredentialKey)} {w : World} {env : Surroundings}

/-- What a receiver has published is known. -/
lemma ReceiverMeets.findSome?_published {n : Nat} {r : Receiver} {said : List Receiver.Intent}
    (h : ReceiverMeets plan known n r said) : said.findSome? (·.published?) = known.map (published plan) := by
  cases h <;> rfl

/-- The key that is known is one of the receiver. -/
lemma ReceiverMeets.isKey {n : Nat} {r : Receiver} {said : List Receiver.Intent} {k : Option CredentialKey}
    (h : ReceiverMeets plan (some k) n r said) : plan.IsKey k := by
  cases h <;> assumption

/-- The credentials that a sender has written are opened by the receiver. -/
lemma SenderMeets.opens {n : Nat} {s : Sender} {table : TaskTable} {said : List Sender.Intent}
    {queue : List Bytes} {bytes : Bytes} (h : SenderMeets plan known n s table said queue)
    (hwritten : said.findSome? (·.written?) = some bytes) :
    ∃ k written, known = some k ∧ bytes = Json.Record.encode written ∧ plan.Opens k written := by
  cases h with
  | idle => cases hwritten
  | advertising => cases hwritten
  | described _ hopens =>
    cases hwritten
    exact ⟨_, _, rfl, rfl, hopens⟩
  | awaiting _ hopens =>
    cases hwritten
    exact ⟨_, _, rfl, rfl, hopens⟩
  | joined _ hopens =>
    cases hwritten
    exact ⟨_, _, rfl, rfl, hopens⟩
  | offered _ hopens =>
    cases hwritten
    exact ⟨_, _, rfl, rfl, hopens⟩

/-- A sender that meets a receiver goes on with its next event. -/
theorem SenderMeets.handle (hplan : plan.Works) (henv : plan.Has env)
    (h : SenderMeets plan known w.senderSeen w.sender w.table w.senderSaid w.toReceiver)
    (hr : ReceiverMeets plan known w.receiverSeen w.receiver w.receiverSaid) {event : Sender.Event}
    (hevent : plan.senderEvent? w = some event) :
    w.senderSeen < 5 ∧
      let t := w.sender.handle env event w.table
      SenderMeets plan known (w.senderSeen + 1) t.session t.table (w.senderSaid ++ t.intents)
        (w.toReceiver ++ t.intents.filterMap (·.frame?)) := by
  have hpublished := hr.findSome?_published
  obtain ⟨⟨s, r, table, toReceiver, toSender, said, rsaid, log⟩, i, j, cues⟩ := w
  cases h with
  | idle hnew =>
    cases hevent
    obtain ⟨table', hregister, hlisted⟩ := TaskTable.exists_register hnew env.now
    refine ⟨by simp, ?_⟩
    simp only
    rw [Sender.handle_of_answers (.began rfl hplan.port (SharedTask.totalSize?_of_lt hplan.sized) hregister)
      (by exact nofun)]
    exact .advertising hlisted
  | advertising hlisted =>
    simp only [Plan.senderEvent?, hpublished] at hevent
    cases hkey : known with
    | none =>
      -- nothing is published yet, so that there is nothing to read
      rw [hkey] at hevent
      cases hevent
    | some k =>
      rw [hkey] at hevent hr
      cases hevent
      obtain ⟨written, used, hopens, hwritten⟩ := Plan.credentialsFor_opens hplan henv hr.isKey
        (Receiver.deviceInfo plan.receiver (k.map (·.publicText plan.tools.suite))) rfl
        { settings := plan.sender, id := plan.id, stage := .advertising, job := some plan.job } rfl table
      refine ⟨by simp, ?_⟩
      simp only
      rw [published, Sender.handle_of_answers
        (.described (j := plan.job) rfl rfl (DeviceInfo.decode_encode _) rfl hwritten) (by exact nofun)]
      exact .described hlisted hopens
  | described hlisted hopens =>
    cases hevent
    refine ⟨by simp, ?_⟩
    simp only
    rw [Sender.handle_of_answers (.awaits rfl rfl rfl) (by exact nofun)]
    exact .awaiting hlisted hopens
  | awaiting hlisted hopens =>
    cases hevent
    refine ⟨by simp, ?_⟩
    simp only
    rw [show plan.port = plan.job.port from rfl,
      Sender.handle_of_answers (.joined (j := plan.job) rfl rfl) (by exact nofun)]
    exact .joined hlisted hopens
  | joined hlisted hopens =>
    cases hevent
    obtain ⟨crypto, hshare⟩ : ∃ crypto, Sender.share env plan.sender = .ok crypto := by
      obtain ⟨-, hshare⟩ | ⟨pair, -, -, hshare⟩ := share_of_generate (S := plan.sender) (e := env) fun _ => by
        rw [henv.provider]
        exact hplan.tools.generates _ henv.random
      · exact ⟨none, hshare⟩
      · exact ⟨_, hshare⟩
    refine ⟨by simp, ?_⟩
    simp only
    rw [handle_channelOpened table rfl rfl hshare]
    exact .offered hlisted hopens henv hshare
  | offered => cases hevent

/-- A receiver that meets a sender goes on with its next event, which may be the publishing of its key. -/
theorem ReceiverMeets.handle (henv : plan.Has env)
    (h : ReceiverMeets plan known w.receiverSeen w.receiver w.receiverSaid)
    (hs : SenderMeets plan known w.senderSeen w.sender w.table w.senderSaid w.toReceiver)
    {event : Receiver.Event} (hevent : plan.receiverEvent? w = some event) :
    w.receiverSeen < 4 ∧ ∃ known',
      let t := w.receiver.handle env event
      SenderMeets plan known' w.senderSeen w.sender w.table w.senderSaid w.toReceiver ∧
        ReceiverMeets plan known' (w.receiverSeen + 1) t.session (w.receiverSaid ++ t.intents) ∧
        t.intents.filterMap (·.frame?) = [] ∧ t.intents.filterMap (·.cue?) = [] := by
  obtain ⟨⟨s, r, table, toReceiver, toSender, said, rsaid, log⟩, i, j, cues⟩ := w
  cases h with
  | idle =>
    cases hevent
    refine ⟨by simp, some (Receiver.credentialKey? env plan.receiver), ?_⟩
    simp only
    rw [Receiver.handle_of_answers rfl (.published rfl) (by exact nofun)]
    refine ⟨?_, ?_, rfl, rfl⟩
    · cases hs with
      | idle hnew => exact .idle hnew
      | advertising hlisted => exact .advertising hlisted
    · have hkey : (Receiver.credentialKey? env plan.receiver).or none =
          Receiver.credentialKey? env plan.receiver := Option.or_none
      simp only [henv.suite, hkey]
      exact .advertised ⟨env, henv, rfl⟩
  | advertised hkey =>
    obtain ⟨bytes, hwritten, rfl⟩ := Option.map_eq_some_iff.1 hevent
    obtain ⟨k, written, hk, rfl, network, hport, hopens⟩ := hs.opens hwritten
    cases hk
    refine ⟨by simp, _, hs, ?_⟩
    simp only
    rw [Receiver.handle_of_answers rfl
      (.joins rfl (NetworkInfo.decode_encode _) (hopens env _ henv rfl) hport) (by exact nofun)]
    exact ⟨.called hkey, rfl, rfl⟩
  | called hkey =>
    cases hevent
    refine ⟨by simp, _, hs, ?_⟩
    simp only
    rw [Receiver.handle_of_answers rfl (.connects rfl) (by exact nofun)]
    exact ⟨.joined hkey, rfl, rfl⟩
  | joined hkey =>
    cases hevent
    refine ⟨by simp, _, hs, ?_⟩
    simp only
    rw [Receiver.handle_of_answers rfl (.connected rfl) (by exact nofun)]
    exact ⟨.connected hkey, rfl, rfl⟩
  | connected => cases hevent

/-- As long as a channel is not open, one of the sides can go on. -/
theorem exists_event (h : SenderMeets plan known w.senderSeen w.sender w.table w.senderSaid w.toReceiver)
    (hr : ReceiverMeets plan known w.receiverSeen w.receiver w.receiverSaid)
    (hopen : w.senderSeen ≠ 5 ∨ w.receiverSeen ≠ 4) :
    (∃ event, plan.senderEvent? w = some event) ∨ ∃ event, plan.receiverEvent? w = some event := by
  have hpublished := hr.findSome?_published
  obtain ⟨⟨s, r, table, toReceiver, toSender, said, rsaid, log⟩, i, j, cues, grants⟩ := w
  -- the receiver can only be waiting for credentials that are already written
  have hreceiver : said.findSome? (·.written?) ≠ none → j ≠ 4 →
      ∃ event, plan.receiverEvent?
        ⟨⟨s, r, table, toReceiver, toSender, said, rsaid, log⟩, i, j, cues, grants⟩ = some event := by
    intro hwritten hj
    obtain ⟨bytes, hwritten⟩ := Option.ne_none_iff_exists'.1 hwritten
    cases hr with
    | idle => exact ⟨_, rfl⟩
    | advertised => exact ⟨_, congrArg (Option.map _) hwritten⟩
    | called => exact ⟨_, rfl⟩
    | joined => exact ⟨_, rfl⟩
    | connected => exact absurd rfl hj
  cases h with
  | idle => exact .inl ⟨_, rfl⟩
  | advertising =>
    cases hr with
    | idle => exact .inr ⟨_, rfl⟩
    | _ => exact .inl ⟨_, congrArg (Option.map _) hpublished⟩
  | described => exact .inl ⟨_, rfl⟩
  | awaiting => exact .inl ⟨_, rfl⟩
  | joined => exact .inl ⟨_, rfl⟩
  | offered => exact .inr (hreceiver nofun (hopen.resolve_left (by simp)))

/-- On its way to an open channel a sender has three frames to take. -/
lemma SenderMeets.frames_eq {n : Nat} {s : Sender} {table : TaskTable} {said : List Sender.Intent}
    {queue : List Bytes} (h : SenderMeets plan known n s table said queue) : s.stage.frames = 3 := by
  cases h <;> rfl

/-- On its way to an open channel a sender has not ended. -/
lemma SenderMeets.isTerminal_eq {n : Nat} {s : Sender} {table : TaskTable} {said : List Sender.Intent}
    {queue : List Bytes} (h : SenderMeets plan known n s table said queue) : s.stage.isTerminal = false := by
  cases h <;> rfl

/-- On its way to an open channel a receiver has seven frames and cues to come. -/
lemma ReceiverMeets.frames_eq {n : Nat} {r : Receiver} {said : List Receiver.Intent}
    (h : ReceiverMeets plan known n r said) : r.stage.frames = 7 := by
  cases h <;> rfl

/-- A sender has sent its offer. -/
structure SenderOffers (plan : Plan) (crypto : Option CryptoContext) (s : Sender) (table : TaskTable)
    (said : List Sender.Intent) : Prop where
  settings : s.settings = plan.sender
  job : s.job = some plan.job
  stage : s.stage = .handshakeConnected
  channel : s.channel = offering crypto
  listed : table.Has plan.task .offered
  silent : said.filterMap (·.result?) = []

/-- The first frame of a sender is its offer, and the only one under way. -/
lemma SenderMeets.of_frame {known : Option (Option CredentialKey)} {n : Nat} {s : Sender} {table : TaskTable}
    {said : List Sender.Intent} {queue rest : List Bytes} {bytes : Bytes}
    (h : SenderMeets plan known n s table said queue) (hqueue : queue = bytes :: rest) :
    ∃ env crypto, plan.Has env ∧ Sender.share env plan.sender = .ok crypto ∧
      bytes = offerFrame plan.sender crypto ∧ rest = [] ∧ n = 5 ∧ SenderOffers plan crypto s table said := by
  cases h with
  | @offered _ _ _ _ env crypto hlisted _ henv hshare =>
    cases hqueue
    exact ⟨env, crypto, henv, hshare, rfl, rfl, rfl, rfl, rfl, rfl, rfl, hlisted, rfl⟩
  | _ => cases hqueue

/-- A sender whose channel is open has one frame under way. -/
lemma SenderMeets.exists_frame {n : Nat} {s : Sender} {table : TaskTable} {said : List Sender.Intent}
    {queue : List Bytes} (h : SenderMeets plan known n s table said queue) (hn : n = 5) :
    ∃ bytes, queue = [bytes] := by
  cases h with
  | offered => exact ⟨_, rfl⟩
  | _ => cases hn

/-- A receiver whose channel is open waits for the offer. -/
lemma ReceiverMeets.of_connected {known : Option (Option CredentialKey)} {n : Nat} {r : Receiver}
    {said : List Receiver.Intent} (h : ReceiverMeets plan known n r said) (hn : n = 4) :
    r.settings = plan.receiver ∧ r.stage = .handshakeConnected ∧ r.channel = .start .receiver ∧
      r.reported = none ∧ said.filterMap (·.result?) = [] := by
  cases h with
  | connected => exact ⟨rfl, rfl, rfl, rfl, rfl⟩
  | _ => cases hn

end Meeting

end DirectShare.Transfer
