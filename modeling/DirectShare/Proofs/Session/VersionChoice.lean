import Mathlib
import DirectShare.Proofs.Session.Handshake

/-!
# The choice of a version

A peer may say anything about its versions: nothing but the one it prefers, a list in any order, or bounds in the
wrong order. Each side compares what it reads with its own range in its own way. The receiver takes the least of two
upper bounds and compares it with the greatest of two lower ones. The sender looks whether the version that comes
back is in both ranges.

`VersionOffer.Tells` gives the range that an offer tells about, and `VersionOffer.tells_iff` shows that the
computed one is the only one. `Receiver.ChoosesBest` and `Sender.TakesChoice` say what each side makes of an
offer in any bytes that are read as one (`Frame.Negotiates`). `Receiver.Reaches.choosesBest` and
`Sender.Reaches.takesChoice` prove them of every session that events lead to, and
`Handshake.chosen_within_ranges` puts both sides together.
-/

namespace DirectShare

/-! ### Two ranges -/

instance lawfulOrderMaxUInt32 : Std.LawfulOrderMax UInt32 where
  max_le_iff a b c := by
    simp only [max, UInt32.le_iff_toNat_le]
    split <;> omega
  max_eq_or a b := by
    simp only [max]
    split <;> simp

namespace VersionRange

variable {a b : VersionRange}

/-- The greatest common version of two ranges is the smaller one of their ends. -/
lemma isGreatest_common (h : max a.least b.least ≤ min a.greatest b.greatest) :
    IsGreatest {v | v ∈ a ∧ v ∈ b} (min a.greatest b.greatest) := by
  refine ⟨(min_mem_iff a b).2 h, ?_⟩
  intro v hv
  have hinter : v ∈ a.inter b := mem_inter.2 hv
  exact hinter.2

/-- Two ranges are apart just if the lower bounds go above the upper ones. -/
lemma forall_not_mem_iff :
    (∀ v, ¬(v ∈ a ∧ v ∈ b)) ↔ min a.greatest b.greatest < max a.least b.least := by
  constructor
  · intro hapart
    rw [← UInt32.not_le]
    intro hle
    exact hapart _ (isGreatest_common hle).1
  · intro hless v hv
    obtain ⟨hleast, hgreatest⟩ : v ∈ a.inter b := mem_inter.2 hv
    exact UInt32.not_lt.2 (UInt32.le_trans hleast hgreatest) hless

/-- There is one greatest version. -/
lemma eq_of_isGreatest {versions : Set UInt32} {v w : UInt32} (hv : IsGreatest versions v)
    (hw : IsGreatest versions w) : v = w :=
  UInt32.le_antisymm (hw.2 hv.1) (hv.2 hw.1)

end VersionRange

/-! ### The range that an offer tells about -/

namespace VersionOffer

/-- How an offer comes by one bound of its range: it has the bound in a field, or lists versions of which the bound
is the extreme one, or has nothing but its preferred version. -/
inductive Bound (IsExtreme : Set UInt32 → UInt32 → Prop) (field : Option UInt32) (offer : VersionOffer) :
    UInt32 → Prop
  | given {v : UInt32} : field = some v → Bound IsExtreme field offer v
  | listed {v : UInt32} : field = none → IsExtreme {w | w ∈ offer.versions} v → Bound IsExtreme field offer v
  | preferred : field = none → offer.versions = [] → Bound IsExtreme field offer offer.version

/-- The range that an offer tells about. Its bounds have nothing to do with each other. -/
structure Tells (offer : VersionOffer) (range : VersionRange) : Prop where
  least : Bound IsLeast offer.minVersion offer range.least
  greatest : Bound IsGreatest offer.maxVersion offer range.greatest

variable {offer : VersionOffer} {range : VersionRange}

/-- A bound is the field for it, or the extreme of the versions, or the version to prefer. -/
lemma bound_iff {IsExtreme : Set UInt32 → UInt32 → Prop} {extreme? : List UInt32 → Option UInt32}
    (hextreme : ∀ vs v, extreme? vs = some v ↔ IsExtreme {w | w ∈ vs} v)
    (hnone : ∀ vs, extreme? vs = none ↔ vs = []) (field : Option UInt32) (offer : VersionOffer) (v : UInt32) :
    Bound IsExtreme field offer v ↔ v = (field.or (extreme? offer.versions)).getD offer.version := by
  constructor
  · intro h
    cases h with
    | given hfield => simp [hfield]
    | listed hfield hlisted => simp [hfield, (hextreme _ _).2 hlisted]
    | preferred hfield hempty => simp [hfield, (hnone _).2 hempty]
  · rintro rfl
    cases hfield : field with
    | some w => exact .given rfl
    | none =>
      cases hlisted : extreme? offer.versions with
      | some w => exact .listed rfl ((hextreme _ _).1 hlisted)
      | none => exact .preferred rfl ((hnone _).1 hlisted)

/-- Every offer tells about one range. -/
theorem tells_iff : offer.Tells range ↔ range = offer.range := by
  have hleast : Bound IsLeast offer.minVersion offer range.least ↔ range.least = offer.range.least :=
    bound_iff (fun _ _ => List.min?_eq_some_iff) (fun _ => List.min?_eq_none_iff) _ _ _
  have hgreatest : Bound IsGreatest offer.maxVersion offer range.greatest ↔ range.greatest = offer.range.greatest :=
    bound_iff (fun _ _ => List.max?_eq_some_iff) (fun _ => List.max?_eq_none_iff) _ _ _
  constructor
  · rintro ⟨h₁, h₂⟩
    obtain ⟨least, greatest⟩ := range
    obtain rfl : least = offer.range.least := hleast.1 h₁
    obtain rfl : greatest = offer.range.greatest := hgreatest.1 h₂
    rfl
  · rintro rfl
    exact ⟨hleast.2 rfl, hgreatest.2 rfl⟩

end VersionOffer

/-! ### Frames that negotiate -/

/-- The bytes are read as a frame of the version negotiation with the given kind, number and offer. -/
def Frame.Negotiates (kind : Frame.Kind) (sequence : UInt32) (offer : VersionOffer) (bytes : Bytes) : Prop :=
  ∃ body, Frame.decode bytes = .ok ⟨kind, sequence, .versionNegotiation, .json body⟩ ∧
    Json.Record.ofJson? body = some offer

section Frames

variable {p : Provider} {kind : Frame.Kind} {sequence : UInt32} {body : Option Json} {offer : VersionOffer}
  {bytes : Bytes} {ch ch' : Channel}

/-- The frame with an offer negotiates. -/
lemma Frame.negotiates_encode (kind : Frame.Kind) (sequence : UInt32) (offer : VersionOffer) :
    Frame.Negotiates kind sequence offer
      (Frame.encode ⟨kind, sequence, .versionNegotiation, .json (Json.Record.toJson offer)⟩) :=
  ⟨_, Frame.decode_encode (f := ⟨kind, sequence, .versionNegotiation, .json (Json.Record.toJson offer)⟩)
    (Handshake.isReadable_offer offer), VersionOffer.ofJson?_toJson offer⟩

/-- The offer of a frame that negotiates is received. -/
lemma Frame.Negotiates.receive_action (h : Frame.Negotiates .action sequence offer bytes)
    (hlast : ch.lastPeerSequence = none) :
    ∃ body, Channel.receive p bytes ch =
        .ok (.action sequence .versionNegotiation body) { ch with lastPeerSequence := some sequence } ∧
      Channel.readBody .versionNegotiation body = .ok offer := by
  obtain ⟨body, hdecode, hoffer⟩ := h
  refine ⟨some body, ?_, Channel.readBody_of_ofJson? hoffer⟩
  apply Channel.receive_action_of_decode hdecode rfl
  · simp [hlast]
  · exact Channel.openBody_plain rfl (.inr rfl)

/-- The answer of a frame that negotiates is received. -/
lemma Frame.Negotiates.receive_ack (h : Frame.Negotiates .ack sequence offer bytes)
    (hpending : ch.pending = some (sequence, .versionNegotiation)) :
    ∃ body, Channel.receive p bytes ch = .ok (.ack .versionNegotiation body) { ch with pending := none } ∧
      Channel.readBody .versionNegotiation body = .ok offer := by
  obtain ⟨body, hdecode, hoffer⟩ := h
  refine ⟨some body, ?_, Channel.readBody_of_ofJson? hoffer⟩
  apply Channel.receive_ack_of_decode hdecode rfl hpending
  exact Channel.openBody_plain rfl (.inr rfl)

/-- Without a key only a readable body is taken. -/
lemma Channel.payload_of_openBody {f : Frame} {b : Json} (hkey : ch.established? = none)
    (h : Channel.openBody p f ch = .ok (some b) ch') : f.payload = .json b := by
  obtain ⟨-, hnone, -⟩ | ⟨b', hpayload, hb, -, -⟩ | ⟨-, c, key, -, -, -, hc, hk, -, -, -, -⟩ :=
    Channel.openBody_ok h
  · cases hnone
  · cases hb
    exact hpayload
  · rw [Channel.established?_eq_some.2 ⟨hc, key, hk⟩] at hkey
    cases hkey

/-- An offer that is received came in a frame that negotiates. -/
lemma Channel.negotiates_of_receive_action (hkey : ch.established? = none)
    (h : Channel.receive p bytes ch = .ok (.action sequence .versionNegotiation body) ch')
    (hread : Channel.readBody .versionNegotiation body = .ok offer) :
    Frame.Negotiates .action sequence offer bytes := by
  obtain ⟨b, rfl, hoffer⟩ := Channel.readBody_ok hread
  obtain ⟨⟨kind, sequence', action, payload⟩, body', ch'', hdecode, hopen, hcase⟩ := Channel.receive_ok h
  obtain ⟨-, -, hinbound, -⟩ | ⟨hkind, -, hinbound, -⟩ := hcase
  · cases hinbound
  · cases hkind
    cases hinbound
    obtain rfl := Channel.payload_of_openBody hkey hopen
    exact ⟨b, hdecode, hoffer⟩

/-- An answer that is received came in a frame that negotiates. -/
lemma Channel.negotiates_of_receive_ack {action : Action} (hkey : ch.established? = none)
    (hpending : ch.pending = some (sequence, action))
    (h : Channel.receive p bytes ch = .ok (.ack .versionNegotiation body) ch')
    (hread : Channel.readBody .versionNegotiation body = .ok offer) :
    Frame.Negotiates .ack sequence offer bytes := by
  obtain ⟨b, rfl, hoffer⟩ := Channel.readBody_ok hread
  obtain ⟨⟨kind, sequence', action', payload⟩, body', ch'', hdecode, hopen, hcase⟩ := Channel.receive_ok h
  obtain ⟨hkind, hwaiting, hinbound, -⟩ | ⟨-, -, hinbound, -⟩ := hcase
  · cases hkind
    cases hinbound
    rw [hpending] at hwaiting
    cases hwaiting
    obtain rfl := Channel.payload_of_openBody hkey hopen
    exact ⟨b, hdecode, hoffer⟩
  · cases hinbound

end Frames

/-- Neither a violation of the protocol nor a fault of the encryption is a want of a version. -/
lemma Failure.kind_ne_versionUnsupported {e : Failure}
    (h : e.kind = .protocolViolation ∨ ∃ reason, e = .crypto reason) : e.kind ≠ .versionUnsupported := by
  obtain hkind | ⟨reason, rfl⟩ := h
  · rw [hkind]
    nofun
  · cases reason <;> nofun

/-! ### Receivers -/

namespace Receiver

variable {env : Surroundings} {settings : Settings} {r : Receiver} {offer ack : VersionOffer} {range : VersionRange}
  {sequence : UInt32} {bytes : Bytes} {ch ch' : Channel}

/-- A key can be agreed on with the side that made the offer, if both want encryption. -/
def CanAgree (env : Surroundings) (settings : Settings) (offer : VersionOffer) : Prop :=
  ∀ value, peerValue? settings offer = some value →
    ∃ c c', CryptoContext.create env.provider .receiver env.random = .ok c ∧
      CryptoContext.deriveText env.provider value c = .ok () c'

/-- What a receiver says to an offer that tells about the given range. -/
structure Replies (env : Surroundings) (settings : Settings) (sequence : UInt32) (offer : VersionOffer)
    (range : VersionRange) (t : Turn) : Prop where
  /-- It fails for want of a version just if no version is in both ranges. -/
  unsupported : (∃ e, t.session.stage = .failed e ∧ e.kind = .versionUnsupported) ↔
    ∀ v, ¬(v ∈ settings.versions ∧ v ∈ range)
  /-- It tells its own range before. -/
  declined : (∀ v, ¬(v ∈ settings.versions ∧ v ∈ range)) →
    ∃ reply answer e, t.intents = [.send reply, .finished (.error e)] ∧ t.session.stage = .failed e ∧
      e.kind = .versionUnsupported ∧ Frame.Negotiates .ack sequence answer reply ∧ answer.Tells settings.versions
  /-- Otherwise it chooses the greatest one, if it can agree on a key. -/
  chosen : ∀ v, IsGreatest {w | w ∈ settings.versions ∧ w ∈ range} v → CanAgree env settings offer →
    ∃ reply answer mode, t.intents = [.send reply, .negotiated v mode] ∧
      Frame.Negotiates .ack sequence answer reply ∧ answer.version = v ∧ answer.Tells settings.versions

/-- A receiver chooses versions that are best for both sides. -/
structure ChoosesBest (settings : Settings) (r : Receiver) : Prop where
  /-- It agrees on a version only when an offer has come, and that is the greatest one in both ranges. -/
  negotiated : ∀ env event v mode, .negotiated v mode ∈ (r.handle env event).intents →
    ∃ bytes sequence offer range, event = .frame bytes ∧ Frame.Negotiates .action sequence offer bytes ∧
      offer.Tells range ∧ IsGreatest {w | w ∈ settings.versions ∧ w ∈ range} v
  /-- It has a reply to every offer. -/
  replies : r.stage = .handshakeConnected → ∀ env bytes sequence offer range,
    Frame.Negotiates .action sequence offer bytes → offer.Tells range →
      Replies env settings sequence offer range (r.handle env (.frame bytes))

/-- Two sides have no version in common exactly when none is in the range of both. -/
lemma noCommonVersion_iff :
    NoCommonVersion settings offer ↔ ∀ v, ¬(v ∈ settings.versions ∧ v ∈ offer.range) :=
  (VersionRange.forall_not_mem_iff (a := settings.versions) (b := offer.range)).symm

/-- A receiver that can agree on a key agrees on the encryption. -/
lemma exists_agreement (h : CanAgree env settings offer) (ch : Channel) :
    ∃ ack ch', agreement env settings offer ch = .ok (ack, ch') := by
  rw [agreement]
  cases hvalue : peerValue? settings offer with
  | none => exact ⟨_, _, rfl⟩
  | some value =>
    obtain ⟨c, c', hcreate, hderive⟩ := h value hvalue
    simp only [hcreate, hderive]
    exact ⟨_, _, rfl⟩

/-- Agreeing on a key leaves the versions in the answer as they are. -/
lemma versions_of_agreement (h : agreement env settings offer ch = .ok (ack, ch')) :
    ack.version = (answer settings offer).version ∧ ack.range = settings.versions := by
  rw [agreement] at h
  split at h
  · cases h
    exact ⟨rfl, rfl⟩
  · split at h
    · cases h
    · split at h
      · cases h
      · cases h
        exact ⟨rfl, rfl⟩

/-- The version in the answer is the greatest one in common. -/
lemma isGreatest_answer (h : ¬NoCommonVersion settings offer) :
    IsGreatest {w | w ∈ settings.versions ∧ w ∈ offer.range} (answer settings offer).version := by
  apply VersionRange.isGreatest_common
  exact UInt32.not_lt.1 h

/-- A receiver fails if it cannot agree on a key. -/
lemma handle_disagreement {body : Option Json} {e : CryptoError} (hr : r.stage = .handshakeConnected)
    (hreceive : Channel.receive env.provider bytes r.channel =
      .ok (.action sequence .versionNegotiation body) ch)
    (hread : Channel.readBody .versionNegotiation body = .ok offer)
    (hversion : ¬NoCommonVersion r.settings offer) (hagree : agreement env r.settings offer ch = .error e) :
    ∃ used, handle env (.frame bytes) r =
      fail (.crypto e) { session := { r with channel := ch }, usedRandom := used } := by
  obtain ⟨used, herror⟩ := onVersionNegotiation_error env sequence (s := { r with channel := ch }) hread hversion hagree
  refine ⟨used, ?_⟩
  rw [handle_frame (by rw [hr]; rfl) hreceive, onInbound_offer hr, herror]
  rfl

/-- A receiver negotiates the greatest version in common with the offer it was given. -/
lemma Reaches.negotiated {event : Event} {v : UInt32} {mode : EncryptionMode} (h : Reaches settings r)
    (hv : .negotiated v mode ∈ (r.handle env event).intents) :
    ∃ bytes sequence offer range, event = .frame bytes ∧ Frame.Negotiates .action sequence offer bytes ∧
      offer.Tells range ∧ IsGreatest {w | w ∈ settings.versions ∧ w ∈ range} v := by
  have hsettings := h.settings
  subst hsettings
  cases hr : r.stage.isTerminal with
  | true =>
    rw [handle_of_isTerminal hr] at hv
    cases hv
  | false =>
    have hturn := handle_answers env hr event
    revert hturn hv
    generalize Receiver.handle env event r = t
    intro hv hturn
    cases hturn with
    | @negotiated bytes reply sequence body offer ack ch₁ ch₂ ch₃ hconnected hreceive hread hversion hagree hack =>
      obtain ⟨rfl, -⟩ : v = ack.version ∧ _ := by simpa using hv
      have hkey : r.channel.established? = none := by
        rw [h.coherent.channel (by rw [hconnected]; trivial)]
        rfl
      refine ⟨bytes, sequence, offer, offer.range, rfl, ?_, VersionOffer.tells_iff.2 rfl, ?_⟩
      · exact Channel.negotiates_of_receive_action hkey hreceive hread
      · rw [(versions_of_agreement hagree).1]
        exact isGreatest_answer hversion
    | _ => simp [fail] at hv

/-- A receiver whose channel is open replies to the offer. -/
lemma Reaches.replies (h : Reaches settings r) (hr : r.stage = .handshakeConnected)
    (hoffer : Frame.Negotiates .action sequence offer bytes) (hrange : offer.Tells range) :
    Replies env settings sequence offer range (r.handle env (.frame bytes)) := by
  have hsettings := h.settings
  subst hsettings
  obtain rfl := VersionOffer.tells_iff.1 hrange
  have hfresh : r.channel.lastPeerSequence = none := by
    rw [h.coherent.channel (by rw [hr]; trivial)]
    rfl
  obtain ⟨body, hreceive, hread⟩ := hoffer.receive_action (p := env.provider) hfresh
  by_cases hversion : NoCommonVersion r.settings offer
  · have hapart := noCommonVersion_iff.1 hversion
    rw [handle_noCommonVersion hr hreceive hread hversion Channel.sendAck_version]
    constructor
    · exact ⟨fun _ => hapart, fun _ => ⟨_, rfl, rfl⟩⟩
    · intro _
      exact ⟨_, _, _, rfl, rfl, rfl, Frame.negotiates_encode .ack sequence _, VersionOffer.tells_iff.2 rfl⟩
    · intro v hv
      exact absurd hv.1 (hapart v)
  · have hbest := isGreatest_answer hversion
    have hcommon : ¬∀ v, ¬(v ∈ r.settings.versions ∧ v ∈ offer.range) := by
      rw [← noCommonVersion_iff]
      exact hversion
    cases hagree : agreement env r.settings offer { r.channel with lastPeerSequence := some sequence } with
    | error e =>
      obtain ⟨used, hturn⟩ := handle_disagreement hr hreceive hread hversion hagree
      rw [hturn]
      constructor
      · constructor
        · rintro ⟨_, ⟨⟩, hkind⟩
          exact absurd hkind (Failure.kind_ne_versionUnsupported (.inr ⟨e, rfl⟩))
        · intro hapart
          exact absurd hapart hcommon
      · intro hapart
        exact absurd hapart hcommon
      · intro v _ hcan
        obtain ⟨ack, ch', hagree'⟩ := exists_agreement hcan { r.channel with lastPeerSequence := some sequence }
        rw [hagree] at hagree'
        cases hagree'
    | ok settled =>
      obtain ⟨ack, ch'⟩ := settled
      obtain ⟨hchosen, htold⟩ := versions_of_agreement hagree
      rw [handle_of_answers (by rw [hr]; rfl)
        (.negotiated hr hreceive hread hversion hagree Channel.sendAck_version) nofun]
      constructor
      · constructor
        · rintro ⟨_, ⟨⟩, -⟩
        · intro hapart
          exact absurd hapart hcommon
      · intro hapart
        exact absurd hapart hcommon
      · intro v hv _
        obtain rfl : v = ack.version := hchosen ▸ VersionRange.eq_of_isGreatest hv hbest
        exact ⟨_, ack, _, rfl, Frame.negotiates_encode .ack sequence ack, rfl, VersionOffer.tells_iff.2 htold.symm⟩

/-- Every receiver chooses versions that are best for both sides. -/
theorem Reaches.choosesBest (h : Reaches settings r) : ChoosesBest settings r where
  negotiated _ _ _ _ hv := h.negotiated hv
  replies hr _ _ _ _ _ hoffer hrange := h.replies hr hoffer hrange

end Receiver

/-! ### Senders -/

namespace Sender

variable {env : Surroundings} {settings : Settings} {id : String} {s : Sender} {table : TaskTable}
  {ack : VersionOffer} {range : VersionRange} {bytes : Bytes} {body : Option Json} {ch ch' : Channel}

/-- A key can be agreed on with the side that gave the answer, if both want encryption. -/
def CanAgree (env : Surroundings) (s : Sender) (ack : VersionOffer) : Prop :=
  ∀ value c, s.settings.encryption = true → ack.publicValue? = some value → s.channel.crypto = some c →
    ∃ c', CryptoContext.deriveText env.provider value c = .ok () c'

/-- What a sender makes of an answer that tells about the given range. -/
structure Considers (env : Surroundings) (s : Sender) (ack : VersionOffer) (range : VersionRange) (t : Turn) :
    Prop where
  /-- It fails for want of a version just if the chosen one is outside a range. -/
  unsupported : (∃ e, t.session.stage = .failed e ∧ e.kind = .versionUnsupported) ↔
    ack.version ∉ s.settings.versions ∨ ack.version ∉ range
  /-- Otherwise it takes that version, if it can agree on a key. -/
  taken : ack.version ∈ s.settings.versions → ack.version ∈ range → CanAgree env s ack →
    t.session.version = some ack.version ∧ ∃ mode, t.intents.head? = some (.negotiated ack.version mode)

/-- A sender takes the choice of the other side, within both ranges. -/
structure TakesChoice (settings : Settings) (s : Sender) : Prop where
  /-- It agrees on a version only when an answer has come, and that is the one in the answer. -/
  negotiated : ∀ env event table v mode, .negotiated v mode ∈ (s.handle env event table).intents →
    ∃ bytes ack range, event = .frame bytes ∧ Frame.Negotiates .ack 0 ack bytes ∧ ack.Tells range ∧
      v = ack.version ∧ v ∈ settings.versions ∧ v ∈ range
  /-- It considers every answer. -/
  considers : s.stage = .handshakeConnected → ∀ env bytes table ack range,
    Frame.Negotiates .ack 0 ack bytes → ack.Tells range → Considers env s ack range (s.handle env (.frame bytes) table)

/-- A sender that waits for the answer has made its offer, and nothing else. -/
lemma Reaches.channel_eq (h : Reaches settings id s) (hs : s.stage = .handshakeConnected) :
    ∃ env crypto, share env settings = .ok crypto ∧ s.channel = Handshake.offering crypto := by
  induction h with
  | start => cases hs
  | @handle s env event table hreaches ih =>
    cases hopen : s.stage.isTerminal with
    | true =>
      rw [handle_of_isTerminal hopen] at hs ⊢
      exact ih hs
    | false =>
      have hturn := handle_answers env table hopen event
      revert hturn hs
      generalize Sender.handle env event s table = t
      intro hs hturn
      cases hturn with
      | @offered crypto bytes channel hjoined hshare hsend =>
        refine ⟨env, crypto, hreaches.settings ▸ hshare, ?_⟩
        have hfresh := hreaches.coherent.channel (by rw [hjoined]; trivial)
        have hturn' := Handshake.handle_channelOpened table hjoined hfresh hshare
        rw [handle_of_answers (.offered hjoined hshare hsend) nofun] at hturn'
        exact congrArg (fun t : Turn => t.session.channel) hturn'
      | crashed hidle =>
        rw [hidle] at hs
        cases hs
      | described hadvertising =>
        rw [hadvertising] at hs
        cases hs
      | _ => cases hs

/-- A sender that makes its offer has no key. -/
lemma established?_offering {crypto : Option CryptoContext} (hshare : share env settings = .ok crypto) :
    (Handshake.offering crypto).established? = none := by
  apply Channel.established?_unkeyed
  intro c hc
  obtain ⟨-, rfl⟩ | ⟨pair, -, -, rfl⟩ := Handshake.share_ok hshare
  · cases hc
  · cases hc
    rfl

/-- A sender that can agree on a key settles the encryption. -/
lemma exists_settle (hcan : CanAgree env s ack) (hcrypto : ch.crypto = s.channel.crypto)
    (hshared : s.settings.encryption = true → s.channel.crypto ≠ none) :
    ∃ ch', settle env.provider s.settings ack ch = .ok () ch' := by
  rw [settle]
  cases hvalue : (if s.settings.encryption then ack.publicValue? else none) with
  | none => exact ⟨_, rfl⟩
  | some value =>
    split_ifs at hvalue with hencryption
    obtain ⟨c, hc⟩ := Option.ne_none_iff_exists'.1 (hshared hencryption)
    obtain ⟨c', hderive⟩ := hcan value c hencryption hvalue hc
    refine ⟨{ ch with crypto := some c' }, ?_⟩
    simp only [Channel.derive, Steps.bind_apply, Steps.get_apply, hcrypto, hc, Channel.withContext, hderive]

/-- What fails in settling is the protocol or the cryptography. -/
lemma settle_failed {e : Failure} (h : settle env.provider settings ack ch = .error e ch') :
    e.kind = .protocolViolation ∨ ∃ reason, e = .crypto reason := by
  rw [settle] at h
  cases hvalue : (if settings.encryption then ack.publicValue? else none) with
  | none =>
    rw [hvalue] at h
    cases h
  | some value =>
    simp only [hvalue, Channel.derive, Steps.bind_apply, Steps.get_apply] at h
    cases hc : ch.crypto with
    | none =>
      rw [hc] at h
      cases h
      exact .inl rfl
    | some c =>
      simp only [hc, Channel.withContext] at h
      split at h
      · cases h
      · cases h
        exact .inr ⟨_, rfl⟩

/-- A version in the range of a sender is not above its bound. -/
lemma min_maxVersion (h : ack.version ∈ settings.versions) : min settings.maxVersion ack.version = ack.version := by
  have hle := UInt32.le_iff_toNat_le.1 h.2
  rw [← UInt32.toNat_inj, toNat_min]
  exact min_eq_right hle

/-- How a sender goes on with a choice within both ranges: the encryption is settled and the version taken, or the
sender fails. -/
lemma handle_choice (table : TaskTable) (hs : s.stage = .handshakeConnected)
    (hreceive : Channel.receive env.provider bytes s.channel = .ok (.ack .versionNegotiation body) ch)
    (hread : Channel.readBody .versionNegotiation body = .ok ack) (hhere : ack.version ∈ s.settings.versions)
    (hthere : ack.version ∈ ack.range) :
    (∀ e, (s.handle env (.frame bytes) table).session.stage = .failed e → e.kind ≠ .versionUnsupported) ∧
    ∀ ch', settle env.provider s.settings ack ch = .ok () ch' →
      (s.handle env (.frame bytes) table).session.version = some ack.version ∧
        ∃ mode, (s.handle env (.frame bytes) table).intents.head? = some (.negotiated ack.version mode) := by
  have hversion := min_maxVersion hhere
  rw [handle_frame (by rw [hs]; rfl) hreceive, onInbound_versionAck hs, onVersionAck_eq _ hread hhere hthere]
  simp only [Steps.bind_apply, Act.onChannel_apply, staged_channel, staged_withChannel, hversion]
  cases hsettle : settle env.provider s.settings ack ch with
  | error e ch₂ =>
    constructor
    · rintro _ ⟨⟩
      exact Failure.kind_ne_versionUnsupported (settle_failed hsettle)
    · intro ch' hsettled
      cases hsettled
  | ok u ch₂ =>
    simp only [Act.update_apply, Act.emit_apply, currentJob_apply, agreed, hversion]
    cases s.job with
    | none =>
      constructor
      · rintro _ ⟨⟩ hkind
        cases hkind
      · intro ch' _
        exact ⟨rfl, _, rfl⟩
    | some j =>
      simp only
      cases hsend : Channel.sendAction env.provider .sendRequest (some (Json.Record.toJson j.request)) ch₂ with
      | error e ch₃ =>
        constructor
        · rintro _ ⟨⟩
          apply Failure.kind_ne_versionUnsupported
          obtain ⟨-, -, hkind, -⟩ | ⟨-, -, hreason⟩ := Channel.sendAction_failed hsend
          · exact .inl hkind
          · exact .inr hreason
        · intro ch' _
          exact ⟨rfl, _, rfl⟩
      | ok request ch₃ =>
        constructor
        · rintro _ ⟨⟩
        · intro ch' _
          exact ⟨rfl, _, rfl⟩

/-- A sender that says what was negotiated has just read the answer to its offer. -/
lemma mem_intents_negotiated {event : Event} {t : Turn} {v : UInt32} {mode : EncryptionMode}
    (hturn : Answers env s table event t) (hv : .negotiated v mode ∈ t.intents) :
    s.stage = .handshakeConnected ∧ ∃ bytes body, ∃ ack : VersionOffer, ∃ ch, event = .frame bytes ∧
      Channel.receive env.provider bytes s.channel = .ok (.ack .versionNegotiation body) ch ∧
      Channel.readBody .versionNegotiation body = .ok ack ∧ v = min s.settings.maxVersion ack.version ∧
      ack.version ∈ s.settings.versions ∧ ack.version ∈ ack.range := by
  cases hturn with
  | announced hconnected hreceive hread hhere hthere =>
    obtain ⟨rfl, -⟩ : v = min s.settings.maxVersion _ ∧ _ := by simpa using hv
    exact ⟨hconnected, _, _, _, _, rfl, hreceive, hread, rfl, hhere, hthere⟩
  | unannounced ch₃ hconnected hreceive hread hhere hthere =>
    obtain ⟨rfl, -⟩ : v = min s.settings.maxVersion _ ∧ _ := by simpa [fail] using hv
    exact ⟨hconnected, _, _, _, _, rfl, hreceive, hread, rfl, hhere, hthere⟩
  | _ => simp [fail, giveUp] at hv

/-- A sender negotiates the version of the answer, which is in the range of both. -/
lemma Reaches.negotiated {event : Event} {v : UInt32} {mode : EncryptionMode} (h : Reaches settings id s)
    (hv : .negotiated v mode ∈ (s.handle env event table).intents) :
    ∃ bytes ack range, event = .frame bytes ∧ Frame.Negotiates .ack 0 ack bytes ∧ ack.Tells range ∧
      v = ack.version ∧ v ∈ settings.versions ∧ v ∈ range := by
  cases hs : s.stage.isTerminal with
  | true =>
    rw [handle_of_isTerminal hs] at hv
    cases hv
  | false =>
    obtain ⟨hconnected, bytes, body, ack, ch, rfl, hreceive, hread, rfl, hhere, hthere⟩ :=
      mem_intents_negotiated (handle_answers env table hs event) hv
    obtain ⟨env', crypto, hshare, hchannel⟩ := h.channel_eq hconnected
    have hkey : s.channel.established? = none := by
      rw [hchannel]
      exact established?_offering hshare
    have hpending : s.channel.pending = some (0, .versionNegotiation) := by
      rw [hchannel]
      rfl
    rw [min_maxVersion hhere, ← h.settings]
    refine ⟨bytes, ack, ack.range, rfl, ?_, VersionOffer.tells_iff.2 rfl, rfl, hhere, hthere⟩
    exact Channel.negotiates_of_receive_ack hkey hpending hreceive hread

/-- A sender whose channel is open considers the answer. -/
lemma Reaches.considers (h : Reaches settings id s) (hs : s.stage = .handshakeConnected) (table : TaskTable)
    (hanswer : Frame.Negotiates .ack 0 ack bytes) (hrange : ack.Tells range) :
    Considers env s ack range (s.handle env (.frame bytes) table) := by
  obtain rfl := VersionOffer.tells_iff.1 hrange
  obtain ⟨env', crypto, hshare, hchannel⟩ := h.channel_eq hs
  have hpending : s.channel.pending = some (0, .versionNegotiation) := by
    rw [hchannel]
    rfl
  obtain ⟨body, hreceive, hread⟩ := hanswer.receive_ack (p := env.provider) hpending
  by_cases hversion : ack.version ∈ s.settings.versions ∧ ack.version ∈ ack.range
  · obtain ⟨hhere, hthere⟩ := hversion
    obtain ⟨hsupported, htaken⟩ := handle_choice table hs hreceive hread hhere hthere
    constructor
    · constructor
      · rintro ⟨e, hfailed, hkind⟩
        exact absurd hkind (hsupported e hfailed)
      · rintro (hout | hout)
        · exact absurd hhere hout
        · exact absurd hthere hout
    · intro _ _ hcan
      have hshared : s.settings.encryption = true → s.channel.crypto ≠ none := by
        intro hencryption
        rw [h.settings] at hencryption
        rw [hchannel]
        obtain ⟨hplain, -⟩ | ⟨pair, -, -, rfl⟩ := Handshake.share_ok hshare
        · rw [hplain] at hencryption
          cases hencryption
        · exact Option.some_ne_none _
      obtain ⟨ch', hsettle⟩ :
          ∃ ch', settle env.provider s.settings ack { s.channel with pending := none } = .ok () ch' :=
        exists_settle hcan rfl hshared
      exact htaken ch' hsettle
  · rw [handle_versionChoice table hs hreceive hread hversion]
    have hout := not_and_or.1 hversion
    constructor
    · exact ⟨fun _ => hout, fun _ => ⟨_, rfl, rfl⟩⟩
    · intro hhere hthere
      exact absurd ⟨hhere, hthere⟩ hversion

/-- Every sender takes the choice of the other side, within both ranges. -/
theorem Reaches.takesChoice (h : Reaches settings id s) : TakesChoice settings s where
  negotiated _ _ _ _ _ hv := h.negotiated hv
  considers hs _ _ table _ _ hanswer hrange := h.considers hs table hanswer hrange

end Sender

namespace Handshake

/-- Whatever a peer says about its versions, a receiver chooses the greatest version in both ranges or says that there
is none, and a sender takes the choice or says that it is outside a range. -/
theorem chosen_within_ranges {settings settings' : Settings} {id : String} {r : Receiver} {s : Sender}
    (hr : Receiver.Reaches settings r) (hs : Sender.Reaches settings' id s) :
    r.ChoosesBest settings ∧ s.TakesChoice settings' :=
  ⟨hr.choosesBest, hs.takesChoice⟩

/-- The offer of a peer that knows about nothing but a version to prefer. -/
def plainOffer (version : UInt32) : VersionOffer := { version }

/-- The frame with such an offer. -/
def plainFrame (kind : Frame.Kind) (version : UInt32) : Bytes :=
  Frame.encode ⟨kind, 0, .versionNegotiation, .json (Json.Record.toJson (plainOffer version))⟩

/-- The frame with such an offer negotiates. -/
lemma negotiates_plainFrame (kind : Frame.Kind) (version : UInt32) :
    Frame.Negotiates kind 0 (plainOffer version) (plainFrame kind version) :=
  Frame.negotiates_encode kind 0 (plainOffer version)

/-- A receiver with three versions agrees to an old peer on the second one, and a sender that has only the first one
fails when it gets the second one. -/
theorem chosen_within_ranges_plain :
    let table : TaskTable := { grace := 0, lifetime := 0 }
    (∃ reply mode, (connectedReceiver.handle (idealSurroundings []) (.frame (plainFrame .action 2))).intents =
      [.send reply, .negotiated 2 mode]) ∧
    ∃ e : Failure,
      ((joinedSender.handle (idealSurroundings [1]) .channelOpened table).session.handle
        (idealSurroundings []) (.frame (plainFrame .ack 2)) table).session.stage = .failed e ∧
        e.kind = .versionUnsupported := by
  intro table
  have hoffered : joinedSender.handle (idealSurroundings [1]) .channelOpened table = _ :=
    handle_channelOpened table rfl rfl rfl
  have hs := reaches_joinedSender.handle (idealSurroundings [1]) .channelOpened table
  obtain ⟨hreceiver, hsender⟩ := chosen_within_ranges reaches_connectedReceiver hs
  have htells : (plainOffer 2).Tells ⟨2, 2⟩ := VersionOffer.tells_iff.2 rfl
  have hreplies := hreceiver.replies rfl (idealSurroundings []) _ 0 _ _ (negotiates_plainFrame .action 2) htells
  have hbest : IsGreatest {w | w ∈ (⟨1, 3⟩ : VersionRange) ∧ w ∈ (⟨2, 2⟩ : VersionRange)} 2 :=
    VersionRange.isGreatest_common (a := ⟨1, 3⟩) (b := ⟨2, 2⟩) (by decide)
  obtain ⟨reply, -, mode, hintents, -⟩ := hreplies.chosen 2 hbest nofun
  refine ⟨⟨reply, mode, hintents⟩, ?_⟩
  have hconsiders := hsender.considers (by rw [hoffered]) (idealSurroundings []) _ table _ _
    (negotiates_plainFrame .ack 2) htells
  exact hconsiders.unsupported.2 (.inl (by rw [hoffered]; decide))

end Handshake

end DirectShare
