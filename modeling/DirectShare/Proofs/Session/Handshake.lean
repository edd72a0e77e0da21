import Mathlib
import DirectShare.Proofs.Session.Delivery
import DirectShare.Proofs.Session.Lifecycle
import DirectShare.Proofs.Wire.Bodies

/-!
# The handshake

A sender offers its versions and a share in the encryption, and a receiver answers. Each decides for
itself: the receiver compares bounds, and the sender looks whether the chosen version is in both ranges.
They come to the same version, the same decision about encryption and the same key, or both fail.

The answer of a receiver to an offer is computed in two ways, for versions that meet and for versions that do
not, and `Handshake.exists_announced` follows the sender from its first event to what it makes of the answer.
`Handshake.agreed_or_parted` compares the worst with the best version of two settings: both sides end in
`Handshake.Agreed` or both in `Handshake.Parted`.
-/

namespace DirectShare

/-! ### Versions and ranges -/

/-- The lesser of two versions is the lesser number. -/
lemma toNat_min (a b : UInt32) : (min a b).toNat = min a.toNat b.toNat := by
  simp only [min, UInt32.le_iff_toNat_le]
  split <;> omega

/-- The greater of two versions is the greater number. -/
lemma toNat_max (a b : UInt32) : (max a b).toNat = max a.toNat b.toNat := by
  simp only [max, UInt32.le_iff_toNat_le]
  split <;> omega

/-- The lesser upper bound is in both ranges exactly if the bounds do not cross. -/
lemma VersionRange.min_mem_iff (a b : VersionRange) :
    min a.greatest b.greatest ∈ a ∧ min a.greatest b.greatest ∈ b ↔
      max a.least b.least ≤ min a.greatest b.greatest := by
  rw [← VersionRange.mem_inter]
  exact ⟨And.left, fun h => ⟨h, UInt32.le_refl _⟩⟩

/-- The offer of a sender tells about its own range. -/
@[simp] lemma Sender.range_offer (settings : Settings) (crypto : Option CryptoContext) :
    (Sender.offer settings crypto).range = settings.versions := rfl

/-- The answer of a receiver tells about its own range. -/
@[simp] lemma Receiver.range_answer (settings : Settings) (offer : VersionOffer) :
    (Receiver.answer settings offer).range = settings.versions := rfl

namespace Handshake

/-- The version that both sides can agree on at best. -/
def bestVersion (S R : Settings) : UInt32 := min S.maxVersion R.maxVersion

/-- The version below which one of the sides does not go. -/
def worstVersion (S R : Settings) : UInt32 := max S.minVersion R.minVersion

variable {S R : Settings} {crypto : Option CryptoContext}

/-- A receiver answers with the best version. -/
lemma version_answer : (Receiver.answer R (Sender.offer S crypto)).version = bestVersion S R := by
  refine UInt32.toNat_inj.1 ?_
  show (min R.maxVersion S.maxVersion).toNat = (min S.maxVersion R.maxVersion).toNat
  rw [toNat_min, toNat_min, min_comm]

/-- A receiver finds no common version exactly if the best one is below the worst one. -/
lemma noCommonVersion_iff :
    Receiver.NoCommonVersion R (Sender.offer S crypto) ↔ bestVersion S R < worstVersion S R := by
  have hmax : max R.minVersion S.minVersion = worstVersion S R := by
    refine UInt32.toNat_inj.1 ?_
    rw [worstVersion, toNat_max, toNat_max, max_comm]
  rw [Receiver.NoCommonVersion, version_answer, Sender.range_offer]
  show bestVersion S R < max R.minVersion S.minVersion ↔ _
  rw [hmax]

/-- The best version is in both ranges exactly if it is not below the worst one. -/
lemma mem_versions_iff :
    bestVersion S R ∈ S.versions ∧ bestVersion S R ∈ R.versions ↔ worstVersion S R ≤ bestVersion S R :=
  VersionRange.min_mem_iff S.versions R.versions

/-- The best version is none above the sender's greatest. -/
lemma min_bestVersion : min S.maxVersion (bestVersion S R) = bestVersion S R := by
  refine UInt32.toNat_inj.1 ?_
  rw [bestVersion, toNat_min, toNat_min]
  omega

/-! ### Settling the encryption -/

/-- The channel of a sender that has sent its offer. -/
def offering (crypto : Option CryptoContext) : Channel :=
  { nextSequence := 1, pending := some (0, .versionNegotiation), crypto }

/-- The channel of a sender that has got its answer. -/
def answered (crypto : Option CryptoContext) : Channel := { nextSequence := 1, crypto }

/-- The channel of a receiver that has got an offer. -/
def answering (crypto : Option CryptoContext) : Channel :=
  { nextSequence := 100, lastPeerSequence := some 0, crypto }

/-- The frame with the offer of a sender. -/
def offerFrame (S : Settings) (crypto : Option CryptoContext) : Bytes :=
  Frame.encode ⟨.action, 0, .versionNegotiation, .json (Json.Record.toJson (Sender.offer S crypto))⟩

/-- The frame with an answer. -/
def answerFrame (ack : VersionOffer) : Bytes :=
  Frame.encode ⟨.ack, 0, .versionNegotiation, .json (Json.Record.toJson ack)⟩

/-- The body of an offer is readable. -/
lemma isReadable_offer (offer : VersionOffer) :
    (Json.Record.toJson offer).IsReadable Json.maxLevels :=
  offer.isReadable_toJson.mono (by decide)

/-- An answer is read back from its frame. -/
lemma decode_answerFrame (ack : VersionOffer) :
    Frame.decode (answerFrame ack) = .ok ⟨.ack, 0, .versionNegotiation, .json (Json.Record.toJson ack)⟩ :=
  Frame.decode_encode (f := ⟨.ack, 0, .versionNegotiation, .json (Json.Record.toJson ack)⟩)
    (isReadable_offer ack)

/-- A sender has a share in the encryption if it wants encryption. -/
lemma share_of_generate {e : Surroundings}
    (hgenerate : S.encryption = true → ∃ pair, e.provider.generate e.random = .ok pair) :
    (S.encryption = false ∧ Sender.share e S = .ok none) ∨
      ∃ pair, S.encryption = true ∧ e.provider.generate e.random = .ok pair ∧
        Sender.share e S = .ok (some { role := .sender, keyPair := some pair }) := by
  cases hencryption : S.encryption with
  | false => exact .inl ⟨rfl, by simp [Sender.share, hencryption]⟩
  | true =>
    obtain ⟨pair, hpair⟩ := hgenerate hencryption
    refine .inr ⟨pair, rfl, hpair, ?_⟩
    rw [Sender.share, if_pos hencryption, CryptoContext.create, hpair]
    rfl

/-- An answer is settled, with the keys of both sides for it. -/
structure Settled (p : Provider) (S R : Settings) (crypto : Option CryptoContext) (e : Surroundings)
    (ack : VersionOffer) (key? : Option SharedKey) : Prop where
  /-- The receiver gives the answer and has the key. -/
  receiver : Receiver.agreement e R (Sender.offer S crypto) (answering none) =
    .ok (ack, answering (key?.map (.keyed .receiver 0 0)))
  /-- The sender has the key, too. -/
  sender : Sender.settle p S ack (answered crypto) = .ok () (answered (key?.map (.keyed .sender 0 0)))
  /-- The answer is the best version. -/
  version : ack.version = bestVersion S R
  /-- The answer tells the range of the receiver. -/
  range : ack.range = R.versions
  /-- The answer comes with a public value if both sides want encryption. -/
  isSome_publicValue? : ack.publicValue?.isSome = (S.encryption && R.encryption)
  /-- There is a key if both sides want encryption. -/
  isSome_key : key?.isSome = (S.encryption && R.encryption)

/-- The version of a settled answer is in both ranges. -/
lemma Settled.mem_versions {p : Provider} {e : Surroundings} {ack : VersionOffer} {key? : Option SharedKey}
    (h : Settled p S R crypto e ack key?) (hversion : worstVersion S R ≤ bestVersion S R) :
    ack.version ∈ S.versions ∧ ack.version ∈ ack.range := by
  rw [h.version, h.range]
  exact mem_versions_iff.2 hversion

/-- If one of the sides wants no encryption, there is none. -/
lemma settled_plain (p : Provider) (e : Surroundings) (h : (S.encryption && R.encryption) = false)
    (hcrypto : S.encryption = false → crypto = none) :
    Settled p S R crypto e (Receiver.answer R (Sender.offer S crypto)) none where
  receiver := by
    have hpeer : Receiver.peerValue? R (Sender.offer S crypto) = none := by
      rw [Receiver.peerValue?]
      split_ifs with hR
      · have hS : S.encryption = false := by simpa [hR] using h
        rw [hcrypto hS]
        rfl
      · rfl
    rw [Receiver.agreement, hpeer]
    rfl
  sender := by
    have hvalue : (Receiver.answer R (Sender.offer S crypto)).publicValue? = none := rfl
    rw [Sender.settle, hvalue, ite_self]
    rfl
  version := version_answer
  range := rfl
  isSome_publicValue? := h.symm
  isSome_key := h.symm

/-- If both sides want encryption, they agree on a key. -/
lemma settled_keyed {p : Provider} {e : Surroundings} {x y : KeyPair} {key : SharedKey}
    (he : e.provider = p) (hS : S.encryption = true) (hR : R.encryption = true)
    (hy : p.generate e.random = .ok y) (hsender : p.agree x y.publicValue = .ok key)
    (hreceiver : p.agree y x.publicValue = .ok key) :
    Settled p S R (some { role := .sender, keyPair := some x }) e
      { Receiver.answer R (Sender.offer S (some { role := .sender, keyPair := some x })) with
        supportsEncryption := true
        ephemeralPublicValue := some (Base64.encode y.publicValue) }
      (some key) where
  receiver := by
    have hpeer : Receiver.peerValue? R (Sender.offer S (some { role := .sender, keyPair := some x })) =
        some (Base64.encode x.publicValue) := by
      rw [Receiver.peerValue?, if_pos hR]
      rfl
    rw [Receiver.agreement, hpeer]
    simp only [he, CryptoContext.create, hy, Except.map, CryptoContext.deriveText, Base64.decode_encode,
      CryptoContext.derive, hreceiver]
    rfl
  sender := by
    rw [Sender.settle, if_pos hS]
    show Channel.derive p (Base64.encode y.publicValue) _ = _
    simp only [Channel.derive, answered, Steps.bind_apply, Steps.get_apply, Channel.withContext,
      CryptoContext.deriveText, Base64.decode_encode, CryptoContext.derive, hsender]
    rfl
  version := version_answer
  range := rfl
  isSome_publicValue? := by
    rw [hS, hR]
    rfl
  isSome_key := by
    rw [hS, hR]
    rfl

/-- What a share in the encryption is made of. -/
lemma share_ok {e : Surroundings} (hshare : Sender.share e S = .ok crypto) :
    (S.encryption = false ∧ crypto = none) ∨
      ∃ pair, S.encryption = true ∧ e.provider.generate e.random = .ok pair ∧
        crypto = some { role := .sender, keyPair := some pair } := by
  rw [Sender.share] at hshare
  split_ifs at hshare with hencryption
  · rw [CryptoContext.create] at hshare
    cases hpair : e.provider.generate e.random with
    | error e =>
      rw [hpair] at hshare
      cases hshare
    | ok pair =>
      rw [hpair] at hshare
      cases hshare
      exact .inr ⟨pair, hencryption, rfl, rfl⟩
  · cases hshare
    exact .inl ⟨by simpa using hencryption, rfl⟩

/-- An offer has a public value exactly if the sender wants encryption. -/
lemma isSome_publicValue?_offer {e : Surroundings} (hshare : Sender.share e S = .ok crypto) :
    (Sender.offer S crypto).publicValue?.isSome = S.encryption := by
  obtain ⟨hS, rfl⟩ | ⟨pair, hS, -, rfl⟩ := share_ok hshare
  · rw [hS]
    rfl
  · rw [hS]
    rfl

/-- The two sides can settle an answer. -/
lemma exists_settled {p : Provider} (hp : p.Cooperates) {e₁ e₂ : Surroundings} (h₁ : e₁.provider = p)
    (h₂ : e₂.provider = p) (hshare : Sender.share e₁ S = .ok crypto)
    (hgenerate : R.encryption = true → ∃ pair, p.generate e₂.random = .ok pair) :
    ∃ ack key?, Settled p S R crypto e₂ ack key? := by
  obtain ⟨hS, rfl⟩ | ⟨x, hS, hx, rfl⟩ := share_ok hshare
  · exact ⟨_, none, settled_plain p e₂ (by simp [hS]) fun _ => rfl⟩
  · cases hR : R.encryption with
    | false => exact ⟨_, none, settled_plain p e₂ (by simp [hR]) (by simp [hS])⟩
    | true =>
      obtain ⟨y, hy⟩ := hgenerate hR
      rw [h₁] at hx
      obtain ⟨key, hsender, hreceiver⟩ := hp.agrees _ _ x y hx hy
      exact ⟨_, some key, settled_keyed h₂ hS hR hy hsender hreceiver⟩

/-! ### The turns -/

section Turns

variable {p : Provider} {e : Surroundings} {s : Sender} {r : Receiver} {table : TaskTable}
  {ack : VersionOffer} {key? : Option SharedKey}

/-- The sender sends its offer. -/
lemma handle_channelOpened (table : TaskTable) (hs : s.stage = .networkJoinObserved)
    (hchannel : s.channel = .start .sender) (hshare : Sender.share e s.settings = .ok crypto) :
    s.handle e .channelOpened table =
      { session := { s with stage := .handshakeConnected, channel := offering crypto }
        table
        intents := [.send (offerFrame s.settings crypto)]
        usedRandom := crypto.isSome } := by
  have hsend : Channel.sendAction e.provider .versionNegotiation
      (some (Json.Record.toJson (Sender.offer s.settings crypto))) (Sender.holding s.channel crypto) =
        .ok (offerFrame s.settings crypto) (offering crypto) := by
    have hnumber : (Channel.start .sender).nextSequence.toNat + 1 < UInt32.size := by decide
    rw [hchannel]
    cases crypto with
    | none => exact Channel.sendAction_version rfl hnumber
    | some c => exact Channel.sendAction_version rfl hnumber
  exact Sender.handle_of_answers (.offered hs hshare hsend) nofun

/-- An offer is received by a channel that has received nothing. -/
lemma receive_offer : Channel.receive p (offerFrame S crypto) (.start .receiver) =
    .ok (.action 0 .versionNegotiation (some (Json.Record.toJson (Sender.offer S crypto)))) (answering none) :=
  Channel.receive_version (isReadable_offer _) nofun

/-- The body of an offer is read as the offer. -/
lemma readBody_offer (offer : VersionOffer) :
    Channel.readBody .versionNegotiation (some (Json.Record.toJson offer)) = .ok offer := by
  rw [Channel.readBody, VersionOffer.ofJson?_toJson]

/-- The receiver answers an offer, if there is a version in common. -/
lemma handle_offer (hr : r.stage = .handshakeConnected) (hchannel : r.channel = .start .receiver)
    (hshare : ∃ e₁, Sender.share e₁ S = .ok crypto) (hsettled : Settled p S r.settings crypto e ack key?)
    (hversion : worstVersion S r.settings ≤ bestVersion S r.settings) :
    r.handle e (.frame (offerFrame S crypto)) =
      { session :=
          { r with
            stage := .versionNegotiated
            channel := answering (key?.map (.keyed .receiver 0 0))
            version := some (bestVersion S r.settings)
            encryption := .negotiate S.encryption r.settings.encryption }
        intents :=
          [.send (answerFrame ack),
            .negotiated (bestVersion S r.settings) (.negotiate S.encryption r.settings.encryption)]
        usedRandom := key?.isSome } := by
  obtain ⟨e₁, hshare⟩ := hshare
  have hcommon : ¬Receiver.NoCommonVersion r.settings (Sender.offer S crypto) := by
    rw [noCommonVersion_iff, UInt32.not_lt]
    exact hversion
  have hreceive : Channel.receive e.provider (offerFrame S crypto) r.channel = _ :=
    hchannel ▸ receive_offer
  have hturn := Receiver.handle_of_answers (s := r) (by rw [hr]; rfl)
    (.negotiated hr hreceive (readBody_offer _) hcommon hsettled.receiver Channel.sendAck_version) nofun
  have hoffer := isSome_publicValue?_offer hshare
  have hpeer : (Receiver.peerValue? r.settings (Sender.offer S crypto)).isSome = key?.isSome := by
    rw [hsettled.isSome_key, Receiver.peerValue?, ← hoffer]
    cases r.settings.encryption <;> simp
  have hmode : EncryptionMode.negotiate r.settings.encryption
      (Sender.offer S crypto).publicValue?.isSome = .negotiate S.encryption r.settings.encryption := by
    rw [hoffer, EncryptionMode.negotiate, EncryptionMode.negotiate, Bool.and_comm]
  rw [hturn, hsettled.version, hmode, hpeer]
  rfl

/-- A receiver that finds no common version fails for that. -/
lemma handle_offer_unsupported (e : Surroundings) (crypto : Option CryptoContext)
    (hr : r.stage = .handshakeConnected) (hchannel : r.channel = .start .receiver)
    (hversion : bestVersion S r.settings < worstVersion S r.settings) :
    r.handle e (.frame (offerFrame S crypto)) =
      Receiver.fail (.noCommonVersion S.versions r.settings.versions)
        { session := { r with channel := answering none }
          intents := [.send (answerFrame (Receiver.answer r.settings (Sender.offer S crypto)))] } := by
  have hreceive : Channel.receive e.provider (offerFrame S crypto) r.channel = _ :=
    hchannel ▸ receive_offer
  exact Receiver.handle_noCommonVersion hr hreceive (readBody_offer _) (noCommonVersion_iff.2 hversion)
    Channel.sendAck_version

/-- An answer is received by the channel that has made the offer. -/
lemma receive_answer : Channel.receive p (answerFrame ack) (offering crypto) =
      .ok (.ack .versionNegotiation (some (Json.Record.toJson ack))) (answered crypto) :=
  Channel.receive_versionAck (isReadable_offer _) rfl

/-- The sender fails if there is no version in common. -/
lemma handle_answer_unsupported (e : Surroundings) (table : TaskTable)
    (hs : s.stage = .handshakeConnected) (hchannel : s.channel = offering crypto)
    (hversion : bestVersion s.settings R < worstVersion s.settings R) :
    s.handle e (.frame (answerFrame (Receiver.answer R (Sender.offer s.settings crypto)))) table =
      Sender.fail e (.versionChoice (bestVersion s.settings R) R.versions s.settings.versions)
        { session := { s with channel := answered crypto }, table } := by
  have hreceive : Channel.receive e.provider
      (answerFrame (Receiver.answer R (Sender.offer s.settings crypto))) s.channel = _ :=
    hchannel ▸ receive_answer
  have hranges : ¬((Receiver.answer R (Sender.offer s.settings crypto)).version ∈ s.settings.versions ∧
      (Receiver.answer R (Sender.offer s.settings crypto)).version ∈
        (Receiver.answer R (Sender.offer s.settings crypto)).range) := by
    rw [version_answer, Receiver.range_answer, mem_versions_iff, UInt32.not_le]
    exact hversion
  have hturn := Sender.handle_versionChoice table hs hreceive (readBody_offer _) hranges
  rw [hturn, version_answer, Receiver.range_answer]

/-- The sender takes the answer and announces its task. -/
lemma handle_answer (table : TaskTable) {j : Sender.Job} {e₂ : Surroundings} (hp : p.Cooperates)
    (he : e.provider = p) (hs : s.stage = .handshakeConnected) (hchannel : s.channel = offering crypto)
    (hjob : s.job = some j) (hsettled : Settled p s.settings R crypto e₂ ack key?)
    (hversion : worstVersion s.settings R ≤ bestVersion s.settings R) :
    ∃ request,
      Channel.sendAction p .sendRequest (some (Json.Record.toJson j.request))
        (answered (key?.map (.keyed .sender 0 0))) =
          .ok request
            { nextSequence := 2, pending := some (1, .sendRequest), crypto := key?.map (.keyed .sender 1 0) } ∧
      s.handle e (.frame (answerFrame ack)) table =
        { session :=
            { s with
              stage := .requestSent
              channel :=
                { nextSequence := 2
                  pending := some (1, .sendRequest)
                  crypto := key?.map (.keyed .sender 1 0) }
              version := some (bestVersion s.settings R)
              encryption := .negotiate s.settings.encryption R.encryption }
          table
          intents :=
            [.negotiated (bestVersion s.settings R) (.negotiate s.settings.encryption R.encryption),
              .send request] } := by
  obtain ⟨request, hsend⟩ : ∃ request,
      Channel.sendAction p .sendRequest (some (Json.Record.toJson j.request))
        (answered (key?.map (.keyed .sender 0 0))) =
          .ok request
            { nextSequence := 2, pending := some (1, .sendRequest), crypto := key?.map (.keyed .sender 1 0) } := by
    have hcrypto : (answered (key?.map (.keyed .sender 0 0))).crypto = key?.map (.keyed .sender 0 0) := rfl
    have hsent : (0 : UInt32).toNat + 1 < UInt32.size := by decide
    have hnumber : (1 : UInt32).toNat + 1 < UInt32.size := by decide
    exact Channel.sendAction_keyed hp hcrypto hsent nofun rfl hnumber
  have hreceive : Channel.receive e.provider (answerFrame ack) s.channel = _ := hchannel ▸ receive_answer
  obtain ⟨hhere, hthere⟩ := hsettled.mem_versions hversion
  have hsettle : Sender.settle e.provider s.settings ack (answered crypto) = _ := he ▸ hsettled.sender
  have hsend' : Channel.sendAction e.provider .sendRequest (some (Json.Record.toJson j.request))
      (answered (key?.map (.keyed .sender 0 0))) = _ := he ▸ hsend
  have hturn : s.handle e (.frame (answerFrame ack)) table = _ :=
    Sender.handle_of_answers (.announced hs hreceive (readBody_offer _) hhere hthere hsettle hjob hsend') nofun
  have hmode : EncryptionMode.negotiate s.settings.encryption ack.publicValue?.isSome =
      .negotiate s.settings.encryption R.encryption := by
    rw [hsettled.isSome_publicValue?, EncryptionMode.negotiate, EncryptionMode.negotiate, ← Bool.and_assoc,
      Bool.and_self]
  refine ⟨request, hsend, ?_⟩
  rw [hturn, Sender.agreed, hsettled.version, min_bestVersion, hmode]

/-- What events keep of a sender that has begun holds of one that has announced its task, too: a receiver without
a key for the credentials leads it there. -/
theorem exists_announced {P : Sender → List Sender.Intent → Prop} {id : String} {j : Sender.Job} {e₂ : Surroundings}
    (table : TaskTable) (hp : e.provider.Cooperates) (hshare : Sender.share e S = .ok crypto)
    (hsettled : Settled e.provider S R crypto e₂ ack key?) (hversion : worstVersion S R ≤ bestVersion S R)
    (hbegun : P { settings := S, id, stage := .advertising, job := some j } [.readDeviceInfo])
    (hkept : ∀ event s s' said intents used, (∀ task network, event ≠ .begin task network) →
      s.handle e event table = ⟨s', table, intents, used, false⟩ → P s said → P s' (said ++ intents)) :
    ∃ s said announcement, P s (said ++ [.send announcement]) ∧
      s.stage = .requestSent ∧ s.job = some j ∧
      s.channel =
        { nextSequence := 2, pending := some (1, .sendRequest), crypto := key?.map (.keyed .sender 1 0) } ∧
      Channel.sendAction e.provider .sendRequest (some (Json.Record.toJson j.request))
        (answered (key?.map (.keyed .sender 0 0))) = .ok announcement s.channel := by
  let info := Receiver.deviceInfo R none
  let s₁ : Sender := { settings := S, id, stage := .advertising, job := some j }
  let s₂ : Sender := { s₁ with peer := some info }
  let s₃ : Sender := { s₂ with stage := .credentialsWritten }
  let s₄ : Sender := { s₂ with stage := .networkJoinObserved }
  let s₅ : Sender := { s₂ with stage := .handshakeConnected, channel := offering crypto }
  have hwritten : Sender.credentialsFor e info j.network { session := s₁, table } =
      .ok { j.network with id := some id } { session := s₁, table } := by
    have hkey : (if s₁.settings.encryption then info.key else none) = none := ite_self _
    simp only [Sender.credentialsFor, Steps.bind_apply, Act.session_apply, hkey]
    rfl
  have hdescribed := hkept (.deviceInfoRead (Json.Record.encode info)) s₁ s₂ _ _ _ (by simp)
    (Sender.handle_of_answers (.described rfl rfl (DeviceInfo.decode_encode info) rfl hwritten) (by simp)) hbegun
  have hawaits := hkept .credentialsWritten s₂ s₃ _ _ _ (by simp)
    (Sender.handle_of_answers (.awaits rfl rfl rfl) (by simp)) hdescribed
  have hjoined := hkept (.peerConnected j.port) s₃ s₄ _ _ _ (by simp)
    (Sender.handle_of_answers (.joined rfl rfl) (by simp)) hawaits
  have hoffered := hkept .channelOpened s₄ s₅ _ _ _ (by simp) (handle_channelOpened table rfl rfl hshare) hjoined
  obtain ⟨announcement, hsend, hturn⟩ := handle_answer table (s := s₅) hp rfl rfl rfl rfl hsettled hversion
  have hannounced := hkept (.frame (answerFrame ack)) s₅ _ _ _ _ (by simp) hturn hoffered
  rw [List.append_cons _ (Sender.Intent.negotiated _ _)] at hannounced
  exact ⟨_, _, announcement, hannounced, rfl, rfl, rfl, hsend⟩

end Turns

/-! ### How a handshake ends -/

/-- Both sides have agreed on a version, on whether to encrypt, and on a key if so. -/
structure Agreed (version : UInt32) (mode : EncryptionMode) (reply : Bytes) (s : Sender.Turn)
    (r : Receiver.Turn) : Prop where
  /-- The receiver answers and says what was agreed on. -/
  receiver : r.intents = [.send reply, .negotiated version mode]
  /-- The sender says the same, and announces its task. -/
  sender : ∃ request, s.intents = [.negotiated version mode, .send request]
  /-- If the session is encrypted, both channels have the same key. -/
  keyed : mode = .enabled → ∃ key c c', s.session.channel.crypto = some c ∧ c.key = some key ∧
    r.session.channel.crypto = some c' ∧ c'.key = some key
  /-- Otherwise no channel has a share in an encryption. -/
  plain : mode = .disabled → s.session.channel.crypto = none ∧ r.session.channel.crypto = none

/-- Both sides have failed because they have no version in common, and have agreed on nothing. -/
structure Parted (reply : Bytes) (s : Sender.Turn) (r : Receiver.Turn) : Prop where
  /-- The receiver answers and fails. -/
  receiver : ∃ e : Failure, e.kind = .versionUnsupported ∧ r.session.stage = .failed e ∧
    r.intents = [.send reply, .finished (.error e)]
  /-- The sender fails. -/
  sender : ∃ e : Failure, e.kind = .versionUnsupported ∧ s.session.stage = .failed e ∧
    s.intents = [.finished (.error e)]

/-- A sender that opens its channel and a receiver agree on the same, or fail both, whatever their
settings are. -/
theorem agreed_or_parted {p : Provider} (hp : p.Cooperates) {id : String} {s : Sender} {r : Receiver}
    (hs : Sender.Reaches S id s) (hr : Receiver.Reaches R r) (hjoined : s.stage = .networkJoinObserved)
    (hconnected : r.stage = .handshakeConnected) (e₁ e₂ e₃ : Surroundings) (h₁ : e₁.provider = p)
    (h₂ : e₂.provider = p) (h₃ : e₃.provider = p)
    (hpair₁ : S.encryption = true → ∃ pair, p.generate e₁.random = .ok pair)
    (hpair₂ : R.encryption = true → ∃ pair, p.generate e₂.random = .ok pair) (table table' : TaskTable) :
    ∃ offer reply, (s.handle e₁ .channelOpened table).intents = [.send offer] ∧
      (∃ payload, Frame.decode reply = .ok ⟨.ack, 0, .versionNegotiation, payload⟩) ∧
      let r' := r.handle e₂ (.frame offer)
      let s' := (s.handle e₁ .channelOpened table).session.handle e₃ (.frame reply) table'
      (max S.minVersion R.minVersion ≤ min S.maxVersion R.maxVersion → ∃ mode,
        (mode = .enabled ↔ S.encryption = true ∧ R.encryption = true) ∧
          Agreed (min S.maxVersion R.maxVersion) mode reply s' r') ∧
      (min S.maxVersion R.maxVersion < max S.minVersion R.minVersion → Parted reply s' r') := by
  have hsettings := hs.settings
  have hsettings' := hr.settings
  obtain ⟨j, hjob⟩ := Option.isSome_iff_exists.1 (hs.coherent.job (by rw [hjoined]; rfl) (by simp [hjoined]))
  have hfresh := hs.coherent.channel (by rw [hjoined]; trivial)
  have hfresh' := hr.coherent.channel (by rw [hconnected]; trivial)
  subst hsettings
  subst hsettings'
  obtain ⟨crypto, hshare⟩ : ∃ crypto, Sender.share e₁ s.settings = .ok crypto := by
    rw [← h₁] at hpair₁
    obtain ⟨-, hshare⟩ | ⟨pair, -, -, hshare⟩ := share_of_generate hpair₁
    · exact ⟨none, hshare⟩
    · exact ⟨_, hshare⟩
  obtain ⟨ack, key?, hsettled⟩ := exists_settled hp h₁ h₂ hshare hpair₂
  have hoffered := handle_channelOpened table hjoined hfresh hshare
  by_cases hversion : worstVersion s.settings r.settings ≤ bestVersion s.settings r.settings
  · refine ⟨offerFrame s.settings crypto, answerFrame ack, by rw [hoffered], ⟨_, decode_answerFrame _⟩, fun _ => ?_,
      fun hless => absurd hversion (UInt32.not_le.2 hless)⟩
    have hanswered := handle_offer hconnected hfresh' ⟨e₁, hshare⟩ hsettled hversion
    obtain ⟨request, -, hdone⟩ := handle_answer table'
      (s := { s with stage := .handshakeConnected, channel := offering crypto }) hp h₃ rfl rfl hjob
      hsettled hversion
    refine ⟨.negotiate s.settings.encryption r.settings.encryption, ?_, ?_⟩
    · cases s.settings.encryption <;> cases r.settings.encryption <;> simp [EncryptionMode.negotiate]
    simp only [hoffered, hanswered, hdone]
    -- there is a key just when both want encryption, which is what the mode says
    have hkey := hsettled.isSome_key
    refine ⟨rfl, ⟨request, rfl⟩, fun hmode => ?_, fun hmode => ?_⟩
    · cases key? with
      | none =>
        rw [EncryptionMode.negotiate, ← hkey] at hmode
        cases hmode
      | some key => exact ⟨key, _, _, rfl, rfl, rfl, rfl⟩
    · cases key? with
      | none => exact ⟨rfl, rfl⟩
      | some key =>
        rw [EncryptionMode.negotiate, ← hkey] at hmode
        cases hmode
  · rw [UInt32.not_le] at hversion
    refine ⟨offerFrame s.settings crypto,
      answerFrame (Receiver.answer r.settings (Sender.offer s.settings crypto)), by rw [hoffered],
      ⟨_, decode_answerFrame _⟩, fun hle => absurd hversion (UInt32.not_lt.2 hle), fun _ => ?_⟩
    have hanswered := handle_offer_unsupported e₂ crypto hconnected hfresh' hversion
    have hdone := handle_answer_unsupported e₃ table'
      (s := { s with stage := .handshakeConnected, channel := offering crypto }) rfl rfl hversion
    simp only [hoffered, hanswered, hdone]
    exact ⟨⟨_, rfl, rfl, rfl⟩, ⟨_, rfl, rfl, rfl⟩⟩

/-! ### A handshake with encryption -/

/-- Surroundings with the ideal provider. -/
def idealSurroundings (random : Bytes) : Surroundings :=
  { provider := .ideal [], suite := ⟨fun _ => [], fun _ _ => none⟩, random, now := 0 }

/-- The ideal provider cooperates. -/
lemma cooperates_ideal (log : List Sealing) : (Provider.ideal log).Cooperates where
  agrees := by
    rintro a b x y hx hy
    cases hx
    cases hy
    have hcomm : Bytes.xor b a = Bytes.xor a b := List.zipWith_comm_of_comm UInt8.xor_comm
    exact ⟨⟨Bytes.xor a b⟩, rfl, congrArg (fun bs => Except.ok (SharedKey.mk bs)) hcomm⟩
  encrypts _ _ _ plaintext := ⟨plaintext, rfl⟩

/-- The work of a sender. -/
def exampleJob : Sender.Job where
  taskId := "t"
  request := SharedTask.announce { id := "t", text := some "hello" } 0 "s" "left"
  network := .plain "ssid" "psk" "mac" 8443
  port := 8443

/-- A sender that waits for its channel. -/
def joinedSender : Sender :=
  { settings := { deviceName := "left" }
    id := "s"
    stage := .networkJoinObserved
    job := some exampleJob
    peer := some (Receiver.deviceInfo { deviceName := "right", maxVersion := 3 } none) }

/-- A receiver whose channel is open. -/
def connectedReceiver : Receiver :=
  { settings := { deviceName := "right", maxVersion := 3 }, stage := .handshakeConnected }

/-- Events lead to the sender of the example. -/
lemma reaches_joinedSender : Sender.Reaches { deviceName := "left" } "s" joinedSender := by
  let env := idealSurroundings []
  have h₀ : Sender.Reaches { deviceName := "left" } "s" _ := .start
  have h₁ := h₀.handle env
    (.begin { id := "t", text := some "hello" } (.plain "ssid" "psk" "mac" 8443)) { grace := 0, lifetime := 0 }
  rw [Sender.handle_of_answers (.began rfl rfl rfl rfl) (by exact nofun)] at h₁
  have h₂ := h₁.handle env (.deviceInfoRead (Json.Record.encode
    (Receiver.deviceInfo { deviceName := "right", maxVersion := 3 } none))) { grace := 0, lifetime := 0 }
  rw [Sender.handle_of_answers (.described rfl rfl (DeviceInfo.decode_encode _) rfl rfl) (by exact nofun)] at h₂
  have h₃ := h₂.handle env .credentialsWritten { grace := 0, lifetime := 0 }
  rw [Sender.handle_of_answers (.awaits rfl rfl rfl) (by exact nofun)] at h₃
  have h₄ := h₃.handle env (.peerConnected exampleJob.port) { grace := 0, lifetime := 0 }
  rw [Sender.handle_of_answers (.joined (j := exampleJob) rfl rfl) (by exact nofun)] at h₄
  exact h₄

/-- Events lead to the receiver of the example. -/
lemma reaches_connectedReceiver :
    Receiver.Reaches { deviceName := "right", maxVersion := 3 } connectedReceiver := by
  let env := idealSurroundings []
  have h₀ : Receiver.Reaches { deviceName := "right", maxVersion := 3 } _ := .start
  have h₁ := h₀.handle env .publish
  rw [Receiver.handle_of_answers rfl (.published rfl) (by exact nofun)] at h₁
  have h₂ := h₁.handle env
    (.credentialsWritten (Json.Record.encode (NetworkInfo.plain "ssid" "psk" "mac" 8443)))
  rw [Receiver.handle_of_answers rfl (.joins rfl (NetworkInfo.decode_encode _) rfl rfl) (by exact nofun)] at h₂
  have h₃ := h₂.handle env (.networkJoined "host")
  rw [Receiver.handle_of_answers rfl (.connects rfl) (by exact nofun)] at h₃
  have h₄ := h₃.handle env .channelOpened
  rw [Receiver.handle_of_answers rfl (.connected rfl) (by exact nofun)] at h₄
  exact h₄

/-- A sender with one version and a receiver with three agree on the first, and on a key. -/
theorem agreed_or_parted_first : ∃ offer reply,
    (joinedSender.handle (idealSurroundings [1]) .channelOpened { grace := 0, lifetime := 0 }).intents =
      [.send offer] ∧
    Agreed 1 .enabled reply
      ((joinedSender.handle (idealSurroundings [1]) .channelOpened { grace := 0, lifetime := 0 }).session.handle
        (idealSurroundings [3]) (.frame reply) { grace := 0, lifetime := 0 })
      (connectedReceiver.handle (idealSurroundings [2]) (.frame offer)) := by
  obtain ⟨offer, reply, hoffer, -, hagreed, -⟩ := agreed_or_parted (cooperates_ideal [])
    reaches_joinedSender reaches_connectedReceiver rfl rfl (idealSurroundings [1]) (idealSurroundings [2])
    (idealSurroundings [3]) rfl rfl rfl (fun _ => ⟨_, rfl⟩) (fun _ => ⟨_, rfl⟩) { grace := 0, lifetime := 0 }
    { grace := 0, lifetime := 0 }
  obtain ⟨mode, hmode, hagreed⟩ := hagreed (by decide)
  rw [hmode.2 ⟨rfl, rfl⟩] at hagreed
  exact ⟨offer, reply, hoffer, hagreed⟩

end Handshake

end DirectShare
