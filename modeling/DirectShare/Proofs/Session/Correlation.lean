import Mathlib
import DirectShare.Proofs.Session.FailedCalls
import DirectShare.Proofs.Session.Script

/-!
# Actions and their acknowledgements

In the life of a channel its calls come in any order, succeed or fail, and its share in the encryption may be
replaced or discarded at any time. All the same, the channel sends one action after the other under increasing
numbers, takes only the acknowledgement of the action that waits for one, and receives no frame twice.

A `Channel.Life` is a channel with the frames that have passed through it, and every call is a step of it
(`Channel.Life.exists_step`). `Channel.Life.Tally` relates the numbers of the channel to those of the frames.
`Channel.Life.Tally.step` keeps it, with a case for each call that succeeds, and `Channel.Life.correlated`
reads the order of the frames (`Channel.Life.Orderly`) from it.
-/

namespace DirectShare.Channel

/-- A frame that has passed through a channel. -/
inductive Passage where
  /-- An action was sent. -/
  | sent (f : Frame)
  /-- A frame was received that acknowledges an action. -/
  | acknowledged (f : Frame)
  /-- An action of the other side was received. -/
  | accepted (f : Frame)

namespace Passage

def sent? : Passage → Option Frame
  | .sent f => some f
  | _ => none

def acknowledged? : Passage → Option Frame
  | .acknowledged f => some f
  | _ => none

def accepted? : Passage → Option Frame
  | .accepted f => some f
  | _ => none

def received? : Passage → Option Frame
  | .acknowledged f | .accepted f => some f
  | .sent _ => none

end Passage

/-- The number and the action of a frame, which its acknowledgement repeats. -/
def label (f : Frame) : UInt32 × Action := (f.sequence, f.action)

/-- A channel with the frames that have passed through it so far. -/
structure Life where
  channel : Channel
  past : List Passage := []

namespace Life

/-- One call of the channel, or another share in the encryption. The provider may be another one each time. -/
inductive Step : Life → Life → Prop
  | sent {l : Life} {p : Provider} {action : Action} {body : Option Json} {f : Frame} {ch : Channel} :
      sendAction p action body l.channel = .ok f.encode ch → Step l ⟨ch, l.past ++ [.sent f]⟩
  | answered {l : Life} {p : Provider} {sequence : UInt32} {action : Action} {body : Option Json} {bytes : Bytes}
      {ch : Channel} :
      sendAck p sequence action body l.channel = .ok bytes ch → Step l ⟨ch, l.past⟩
  | acknowledged {l : Life} {p : Provider} {bytes : Bytes} {f : Frame} {action : Action} {body : Option Json}
      {ch : Channel} :
      Frame.decode bytes = .ok f → receive p bytes l.channel = .ok (.ack action body) ch →
      Step l ⟨ch, l.past ++ [.acknowledged f]⟩
  | accepted {l : Life} {p : Provider} {bytes : Bytes} {f : Frame} {sequence : UInt32} {action : Action}
      {body : Option Json} {ch : Channel} :
      Frame.decode bytes = .ok f → receive p bytes l.channel = .ok (.action sequence action body) ch →
      Step l ⟨ch, l.past ++ [.accepted f]⟩
  | failed {l : Life} {p : Provider} {call : Call} {e : Failure} {ch : Channel} :
      call.run p l.channel = .error e ch → Step l ⟨ch, l.past⟩
  /-- Its share in the encryption is replaced, or discarded. -/
  | crypto {l : Life} (c : Option CryptoContext) : Step l ⟨{ l.channel with crypto := c }, l.past⟩

def sent (l : Life) : List Frame := l.past.filterMap Passage.sent?

def acknowledged (l : Life) : List Frame := l.past.filterMap Passage.acknowledged?

def accepted (l : Life) : List Frame := l.past.filterMap Passage.accepted?

/-- All frames that were received, of both kinds. -/
def received (l : Life) : List Frame := l.past.filterMap Passage.received?

/-- The frames have passed in order. -/
structure Orderly (role : Role) (l : Life) : Prop where
  /-- The numbers of the sent actions increase. -/
  sent : l.sent.Pairwise fun f g => f.sequence < g.sequence
  /-- They start with the first number of the side. -/
  first : ∀ f ∈ l.sent, f.kind = .action ∧ role.firstSequence ≤ f.sequence
  /-- The sent actions are those that were acknowledged, in this order, and the one that waits for it. -/
  acknowledged : l.sent.map label = l.acknowledged.map label ++ l.channel.pending.toList
  acks : ∀ f ∈ l.acknowledged, f.kind = .ack
  /-- The numbers of the actions of the other side increase. -/
  accepted : l.accepted.Pairwise fun f g => f.sequence < g.sequence
  actions : ∀ f ∈ l.accepted, f.kind = .action

/-- The frames have passed in order, and the numbers of the channel are in line with theirs. -/
structure Tally (role : Role) (l : Life) : Prop extends Orderly role l where
  /-- The next number is greater than those of the sent actions. -/
  next : role.firstSequence ≤ l.channel.nextSequence ∧ ∀ f ∈ l.sent, f.sequence < l.channel.nextSequence
  /-- The last number of the other side is not less than those of its actions. -/
  last : ∀ f ∈ l.accepted, ∃ n, l.channel.lastPeerSequence = some n ∧ f.sequence ≤ n

variable {role : Role} {l l' : Life} {ch : Channel} {x : Passage}

/-- The sent frames after one more passage. -/
@[simp] lemma sent_append : (Life.mk ch (l.past ++ [x])).sent = l.sent ++ x.sent?.toList := by
  cases x <;> simp [sent, Passage.sent?]

/-- The acknowledged frames after one more passage. -/
@[simp] lemma acknowledged_append :
    (Life.mk ch (l.past ++ [x])).acknowledged = l.acknowledged ++ x.acknowledged?.toList := by
  cases x <;> simp [acknowledged, Passage.acknowledged?]

/-- The accepted frames after one more passage. -/
@[simp] lemma accepted_append : (Life.mk ch (l.past ++ [x])).accepted = l.accepted ++ x.accepted?.toList := by
  cases x <;> simp [accepted, Passage.accepted?]

/-- At the start there is nothing to tally. -/
lemma tally_start (role : Role) : Tally role { channel := Channel.start role } where
  sent := .nil
  first := by simp [sent]
  acknowledged := rfl
  acks := by simp [acknowledged]
  accepted := .nil
  actions := by simp [accepted]
  next := ⟨UInt32.le_refl _, by simp [sent]⟩
  last := by simp [accepted]

/-- A channel that keeps what it waits for and what it has accepted keeps its tally, even if it uses up numbers. -/
lemma Tally.of_channel (h : Tally role l) (hpending : ch.pending = l.channel.pending)
    (hlast : ch.lastPeerSequence = l.channel.lastPeerSequence)
    (hnext : l.channel.nextSequence ≤ ch.nextSequence) : Tally role ⟨ch, l.past⟩ where
  sent := h.sent
  first := h.first
  acknowledged := by
    rw [hpending]
    exact h.acknowledged
  acks := h.acks
  accepted := h.accepted
  actions := h.actions
  next := ⟨UInt32.le_trans h.next.1 hnext, fun f hf => UInt32.lt_of_lt_of_le (h.next.2 f hf) hnext⟩
  last := by
    rw [hlast]
    exact h.last

/-- While numbers are left, the next one is greater. -/
lemma lt_add_one_of_room {n : UInt32} (h : n.toNat + 1 < UInt32.size) : n < n + 1 := by
  have hne : n ≠ -1 := by
    rintro rfl
    revert h
    decide
  exact UInt32.lt_add_one hne

/-- An action that is sent takes the next number. -/
lemma Tally.sendAction (h : Tally role l) {p : Provider} {action : Action} {body : Option Json} {f : Frame}
    (hsend : Channel.sendAction p action body l.channel = .ok f.encode ch) :
    Tally role ⟨ch, l.past ++ [.sent f]⟩ := by
  obtain ⟨payload, ch', hpending, hroom, hseal, hbytes, rfl⟩ := sendAction_ok hsend
  obtain ⟨hnext, -, hlast⟩ := numbers_sealBody hseal
  obtain ⟨hkind, hsequence, haction⟩ := Frame.encode_injective_header hbytes
  simp only at hkind hsequence haction hnext hlast
  have hless := lt_add_one_of_room hroom
  exact {
    sent := by
      rw [sent_append]
      refine List.pairwise_append.2 ⟨h.sent, List.pairwise_singleton _ _, fun g hg f' hf' => ?_⟩
      obtain rfl := List.mem_singleton.1 hf'
      rw [hsequence]
      exact h.next.2 g hg
    first := by
      rw [sent_append, List.forall_mem_append]
      refine ⟨h.first, List.forall_mem_singleton.2 ⟨hkind, ?_⟩⟩
      rw [hsequence]
      exact h.next.1
    acknowledged := by
      have hall := h.acknowledged
      rw [hpending, Option.toList_none, List.append_nil] at hall
      rw [sent_append, acknowledged_append, List.map_append]
      simp [Passage.sent?, Passage.acknowledged?, label, hall, hsequence, haction]
    acks := by simpa [Passage.acknowledged?] using h.acks
    accepted := by simpa [Passage.accepted?] using h.accepted
    actions := by simpa [Passage.accepted?] using h.actions
    next := by
      simp only [hnext]
      refine ⟨UInt32.le_of_lt (UInt32.lt_of_le_of_lt h.next.1 hless), ?_⟩
      rw [sent_append, List.forall_mem_append]
      refine ⟨fun g hg => UInt32.lt_trans (h.next.2 g hg) hless, List.forall_mem_singleton.2 ?_⟩
      rw [hsequence]
      exact hless
    last := by simpa [Passage.accepted?, hlast] using h.last }

/-- An acknowledgement is that of the action that waits for it. -/
lemma Tally.receiveAck (h : Tally role l) {p : Provider} {bytes : Bytes} {f : Frame} {action : Action}
    {body : Option Json} (hdecode : Frame.decode bytes = .ok f)
    (hreceive : receive p bytes l.channel = .ok (.ack action body) ch) :
    Tally role ⟨ch, l.past ++ [.acknowledged f]⟩ := by
  obtain ⟨sequence, ⟨payload, hdecode'⟩, hpending, hnext, hnone, hlast⟩ := receive_awaited hreceive
  obtain rfl : f = ⟨.ack, sequence, action, payload⟩ := Except.ok.inj (hdecode.symm.trans hdecode')
  exact {
    sent := by simpa [Passage.sent?] using h.sent
    first := by simpa [Passage.sent?] using h.first
    acknowledged := by
      have hall := h.acknowledged
      rw [hpending] at hall
      simp [Passage.sent?, Passage.acknowledged?, label, hnone, hall]
    acks := by
      rw [acknowledged_append, List.forall_mem_append]
      exact ⟨h.acks, List.forall_mem_singleton.2 rfl⟩
    accepted := by simpa [Passage.accepted?] using h.accepted
    actions := by simpa [Passage.accepted?] using h.actions
    next := by simpa [Passage.sent?, hnext] using h.next
    last := by simpa [Passage.accepted?, hlast] using h.last }

/-- An action of the other side has a number greater than the last one. -/
lemma Tally.receiveAction (h : Tally role l) {p : Provider} {bytes : Bytes} {f : Frame} {sequence : UInt32}
    {action : Action} {body : Option Json} (hdecode : Frame.decode bytes = .ok f)
    (hreceive : receive p bytes l.channel = .ok (.action sequence action body) ch) :
    Tally role ⟨ch, l.past ++ [.accepted f]⟩ := by
  obtain ⟨⟨payload, hdecode'⟩, hless, hnext, hpending, hlast⟩ := receive_action hreceive
  obtain rfl : f = ⟨.action, sequence, action, payload⟩ := Except.ok.inj (hdecode.symm.trans hdecode')
  have hgreater : ∀ g ∈ l.accepted, g.sequence < sequence := fun g hg => by
    obtain ⟨n, hn, hle⟩ := h.last g hg
    exact UInt32.lt_of_le_of_lt hle (hless n hn)
  exact {
    sent := by simpa [Passage.sent?] using h.sent
    first := by simpa [Passage.sent?] using h.first
    acknowledged := by
      have hall := h.acknowledged
      simpa [Passage.sent?, Passage.acknowledged?, hpending] using hall
    acks := by simpa [Passage.acknowledged?] using h.acks
    accepted := by
      rw [accepted_append]
      refine List.pairwise_append.2 ⟨h.accepted, List.pairwise_singleton _ _, fun g hg f' hf' => ?_⟩
      obtain rfl := List.mem_singleton.1 hf'
      exact hgreater g hg
    actions := by
      rw [accepted_append, List.forall_mem_append]
      exact ⟨h.actions, List.forall_mem_singleton.2 rfl⟩
    next := by simpa [Passage.sent?, hnext] using h.next
    last := by
      rw [accepted_append, List.forall_mem_append]
      exact ⟨fun g hg => ⟨sequence, hlast, UInt32.le_of_lt (hgreater g hg)⟩,
        List.forall_mem_singleton.2 ⟨sequence, hlast, UInt32.le_refl _⟩⟩ }

/-- Every call is a step. -/
theorem exists_step (p : Provider) (call : Call) (l : Life) :
    ∃ past, Step l ⟨after (call.run p l.channel), past⟩ := by
  cases hrun : call.run p l.channel with
  | error e ch => exact ⟨_, .failed hrun⟩
  | ok answer ch =>
    cases call with
    | sendAction action body =>
      obtain ⟨bytes, hsend⟩ := ok_of_map_ok hrun
      obtain ⟨payload, ch', -, -, -, rfl, -⟩ := sendAction_ok hsend
      exact ⟨_, .sent hsend⟩
    | sendAck sequence action body =>
      obtain ⟨bytes, hsend⟩ := ok_of_map_ok hrun
      exact ⟨_, .answered hsend⟩
    | receive bytes =>
      obtain ⟨inbound, hreceive⟩ := ok_of_map_ok hrun
      obtain ⟨f, body, ch', hdecode, -, hcase⟩ := receive_ok hreceive
      obtain ⟨-, -, rfl, -⟩ | ⟨-, -, rfl, -⟩ := hcase
      · exact ⟨_, .acknowledged hdecode hreceive⟩
      · exact ⟨_, .accepted hdecode hreceive⟩

/-- The numbers of a channel are used in order, and none is used again. -/
lemma Step.nextSequence_le (hstep : Step l l') : l.channel.nextSequence ≤ l'.channel.nextSequence := by
  cases hstep with
  | sent hsend =>
    obtain ⟨payload, ch', -, hroom, hseal, -, rfl⟩ := sendAction_ok hsend
    obtain ⟨hnext, -, -⟩ := numbers_sealBody hseal
    rw [hnext]
    exact UInt32.le_of_lt (lt_add_one_of_room hroom)
  | answered hsend =>
    obtain ⟨payload, hseal, -⟩ := sendAck_ok hsend
    exact UInt32.le_of_eq (numbers_sealBody hseal).1.symm
  | acknowledged hdecode hreceive =>
    obtain ⟨-, -, -, hnext, -⟩ := receive_awaited hreceive
    exact UInt32.le_of_eq hnext.symm
  | accepted hdecode hreceive =>
    obtain ⟨-, -, hnext, -⟩ := receive_action hreceive
    exact UInt32.le_of_eq hnext.symm
  | failed hrun =>
    obtain hnext | ⟨-, -, hroom, hnext⟩ := nextSequence_of_error hrun
    · exact UInt32.le_of_eq hnext.symm
    · rw [hnext]
      exact UInt32.le_of_lt (lt_add_one_of_room hroom)
  | crypto c => exact UInt32.le_refl _

/-- Every step keeps the numbers of the channel and those of the frames in line. -/
theorem Tally.step (h : Tally role l) (hstep : Step l l') : Tally role l' := by
  have hnext := hstep.nextSequence_le
  cases hstep with
  | sent hsend => exact h.sendAction hsend
  | answered hsend =>
    obtain ⟨payload, hseal, -⟩ := sendAck_ok hsend
    obtain ⟨-, hpending, hlast⟩ := numbers_sealBody hseal
    exact h.of_channel hpending hlast hnext
  | acknowledged hdecode hreceive => exact h.receiveAck hdecode hreceive
  | accepted hdecode hreceive => exact h.receiveAction hdecode hreceive
  | failed hrun =>
    obtain ⟨hpending, hlast⟩ := kept_of_error hrun
    exact h.of_channel hpending hlast hnext
  | crypto c => exact h.of_channel rfl rfl hnext

/-- In every life the numbers of the channel are in line with those of the frames. -/
lemma tally_of_steps (h : Relation.ReflTransGen Step { channel := Channel.start role } l) : Tally role l := by
  induction h with
  | refl => exact tally_start role
  | tail _ hstep ih => exact ih.step hstep

/-- The next number never decreases. -/
lemma nextSequence_le_of_steps (h : Relation.ReflTransGen Step l l') :
    l.channel.nextSequence ≤ l'.channel.nextSequence := by
  induction h with
  | refl => exact UInt32.le_refl _
  | tail _ hstep ih => exact UInt32.le_trans ih hstep.nextSequence_le

/-- The numbers of the acknowledgements increase with those of their actions. -/
lemma Orderly.acknowledged_pairwise (h : Orderly role l) :
    l.acknowledged.Pairwise fun f g => f.sequence < g.sequence := by
  have hsent : (l.sent.map label).Pairwise fun a b => a.1 < b.1 := List.pairwise_map.2 h.sent
  rw [h.acknowledged, List.pairwise_append, List.pairwise_map] at hsent
  exact hsent.1

/-- No frame is received twice. -/
lemma Orderly.received_pairwise (h : Orderly role l) :
    l.received.Pairwise fun f g => ¬(f.kind = g.kind ∧ f.sequence = g.sequence ∧ f.action = g.action) := by
  have hacks := List.pairwise_filterMap.1 h.acknowledged_pairwise
  have haccepted := List.pairwise_filterMap.1 h.accepted
  refine List.pairwise_filterMap.2 ((hacks.and haccepted).imp_of_mem fun {x y} hx hy hxy => ?_)
  rintro f hf g hg ⟨hkind, hsequence, -⟩
  -- the numbers of each kind increase, and the kinds differ
  cases x with
  | sent => cases hf
  | acknowledged f' =>
    cases hf
    cases y with
    | sent => cases hg
    | acknowledged g' =>
      cases hg
      exact UInt32.ne_of_lt (hxy.1 f rfl g rfl) hsequence
    | accepted g' =>
      cases hg
      rw [h.acks f (List.mem_filterMap.2 ⟨_, hx, rfl⟩), h.actions g (List.mem_filterMap.2 ⟨_, hy, rfl⟩)] at hkind
      cases hkind
  | accepted f' =>
    cases hf
    cases y with
    | sent => cases hg
    | acknowledged g' =>
      cases hg
      rw [h.actions f (List.mem_filterMap.2 ⟨_, hx, rfl⟩), h.acks g (List.mem_filterMap.2 ⟨_, hy, rfl⟩)] at hkind
      cases hkind
    | accepted g' =>
      cases hg
      exact UInt32.ne_of_lt (hxy.2 f rfl g rfl) hsequence

end Life

variable {p : Provider} {action : Action} {body : Option Json} {ch : Channel}

/-- No action is sent while another one waits, or once the numbers are used up. -/
lemma sendAction_of_not_ready (h : ch.pending = none → ¬ch.nextSequence.toNat + 1 < UInt32.size) :
    ∃ e, sendAction p action body ch = .error e ch := by
  obtain ⟨e, -, -, hsend⟩ := sendAction_of_not_isReady (fun hready => h hready.1 hready.2) action
  exact ⟨e, hsend p body⟩

namespace Life

variable {role : Role} {l : Life}

/-- In every life of a channel, the sent actions have increasing numbers from the first number of the side on, and
they are acknowledged one after the other, so that at most the last one waits. The actions of the other side have
increasing numbers, too, and no frame is received twice. No action is sent while another one waits, or from then on
when the numbers are used up; and an acknowledgement is received only if its frame names the action that waits. -/
theorem correlated (h : Relation.ReflTransGen Step { channel := Channel.start role } l) :
    Orderly role l ∧
    (l.received.Pairwise fun f g => ¬(f.kind = g.kind ∧ f.sequence = g.sequence ∧ f.action = g.action)) ∧
    (l.channel.pending ≠ none → ∀ p action body, ∃ e, sendAction p action body l.channel = .error e l.channel) ∧
    (l.channel.nextSequence.toNat + 1 = UInt32.size → ∀ later, Relation.ReflTransGen Step l later →
      ∀ p action body, ∃ e, sendAction p action body later.channel = .error e later.channel) ∧
    ∀ p bytes action body ch, receive p bytes l.channel = .ok (.ack action body) ch →
      ∃ f, Frame.decode bytes = .ok f ∧ f.kind = .ack ∧ l.channel.pending = some (f.sequence, f.action) ∧
        action = f.action := by
  have horderly := (tally_of_steps h).toOrderly
  refine ⟨horderly, horderly.received_pairwise, fun hpending p action body => ?_,
    fun hspent later hlater p action body => ?_, fun p bytes action body ch hreceive => ?_⟩
  · exact sendAction_of_not_ready fun hnone => absurd hnone hpending
  · have hle := UInt32.le_iff_toNat_le.1 (nextSequence_le_of_steps hlater)
    exact sendAction_of_not_ready fun _ => by omega
  · obtain ⟨sequence, ⟨payload, hdecode⟩, hpending, -⟩ := receive_awaited hreceive
    exact ⟨_, hdecode, rfl, hpending, rfl⟩

/-- A sender reports something, which is acknowledged, and receives a report. -/
theorem correlated_reports : ∃ l : Life, Relation.ReflTransGen Step { channel := Channel.start .sender } l ∧
    l.past = [.sent ⟨.action, 0, .status, .empty⟩, .acknowledged ⟨.ack, 0, .status, .empty⟩,
      .accepted ⟨.action, 100, .status, .empty⟩] ∧
    Orderly .sender l := by
  let p := Provider.ideal []
  let f : Frame := ⟨.action, 0, .status, .empty⟩
  let g : Frame := ⟨.ack, 0, .status, .empty⟩
  let h : Frame := ⟨.action, 100, .status, .empty⟩
  let a : Channel := { nextSequence := 1, pending := some (0, .status) }
  let b : Channel := { nextSequence := 1 }
  let c : Channel := { nextSequence := 1, lastPeerSequence := some 100 }
  have hsend : sendAction p .status none (Channel.start .sender) = .ok f.encode a := rfl
  have hack : receive p g.encode a = .ok (.ack .status none) b :=
    receive_of_ack (f := g) trivial rfl rfl (openBody_empty rfl)
  have haction : receive p h.encode b = .ok (.action 100 .status none) c :=
    receive_of_action (f := h) trivial rfl (by simp [b]) (openBody_empty rfl)
  have hg : Frame.decode g.encode = .ok g := Frame.decode_encode trivial
  have hh : Frame.decode h.encode = .ok h := Frame.decode_encode trivial
  have hstart : Step { channel := Channel.start .sender } ⟨a, [.sent f]⟩ := .sent hsend
  have hstep : Step ⟨a, [.sent f]⟩ ⟨b, [.sent f, .acknowledged g]⟩ := .acknowledged hg hack
  have hend : Step ⟨b, [.sent f, .acknowledged g]⟩ ⟨c, [.sent f, .acknowledged g, .accepted h]⟩ :=
    .accepted hh haction
  have hsteps := ((Relation.ReflTransGen.single hstart).tail hstep).tail hend
  exact ⟨_, hsteps, rfl, (correlated hsteps).1⟩

end Life

end DirectShare.Channel
