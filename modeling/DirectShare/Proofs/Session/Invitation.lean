import Mathlib
import DirectShare.Proofs.Crypto.Credentials
import DirectShare.Proofs.Wire.Bodies
import DirectShare.Proofs.Session.Sender
import DirectShare.Proofs.Session.Receiver

/-!
# Invitations

A receiver publishes a description of itself, a sender that has read it answers with a description of its network,
and the receiver joins that network. If both want encryption, the credentials travel sealed, with a key that
either side derives from its own private key and the other one's public key; otherwise they travel as they are.
What arrives is the same either way, except for the version of the sharing protocol: a description keeps that of
its network as long as it is plain, and loses it when it is sealed.

`Sender.credentialsFor_plain` and `Sender.credentialsFor_sealed` say what a sender writes, and
`Receiver.openCredentials_plain` and `Receiver.openCredentials_sealed` what a receiver makes of it.
`Invitation.Joins` chains the three events, and `Invitation.joins_described_network` goes through the
combinations of the two settings for encryption. `Invitation.described` is the network that is joined.
-/

namespace DirectShare

section

variable {e : Surroundings} {s : Sender} {r : Receiver} {table : TaskTable} {info : DeviceInfo}
  {written network : NetworkInfo} {k l : CredentialKey} {cipher : CredentialCipher}

/-! ### The sender -/

/-- If it has no key to seal with, a sender writes its network as it is, under its own name. -/
theorem Sender.credentialsFor_plain (h : (if s.settings.encryption then info.key else none) = none) :
    credentialsFor e info network { session := s, table } =
      .ok { network with id := some s.id } { session := s, table } := by
  simp only [credentialsFor, Steps.bind_apply, Act.session_apply, h]
  rfl

/-- A sender seals the credentials with the key that it derives from that of the receiver. -/
theorem Sender.credentialsFor_sealed (hwanted : s.settings.encryption = true)
    (hkey : info.key = some (l.publicText e.suite))
    (hagree : e.suite.agree ⟨e.random⟩ (e.suite.publicKey l) = some cipher) :
    credentialsFor e info network { session := s, table } =
      .ok (cipher.sealNetwork network s.id (CredentialKey.publicText e.suite ⟨e.random⟩))
        { session := s, table, usedRandom := true } := by
  simp only [credentialsFor, Steps.bind_apply, Act.session_apply, hwanted, hkey, if_true, Act.useRandom_apply,
    Act.credential_apply, CredentialKey.derive_publicText hagree]
  rfl

/-! ### The receiver -/

/-- Credentials without a key are as they are written. -/
theorem Receiver.openCredentials_plain (h : written.key = none) :
    openCredentials e written { session := r } = .ok written { session := { r with credentialKey := none } } := by
  simp only [openCredentials, Steps.bind_apply, Act.session_apply, Act.update_apply, h]
  rfl

/-- Sealed credentials are opened with the key that is derived from that of the sender. -/
theorem Receiver.openCredentials_sealed (hkey : r.credentialKey = some k)
    (hagree : e.suite.agree k (e.suite.publicKey l) = some cipher) (id : String) :
    openCredentials e (cipher.sealNetwork network id (l.publicText e.suite)) { session := r } =
      .ok { network with id := some id, key := none, catShare := some 1 }
        { session := { r with credentialKey := none } } := by
  have hpeer : (cipher.sealNetwork network id (l.publicText e.suite)).key = some (l.publicText e.suite) := rfl
  simp only [openCredentials, Steps.bind_apply, Act.session_apply, Act.update_apply, hpeer, hkey,
    Act.credential_apply, CredentialKey.derive_publicText hagree, CredentialCipher.openNetwork_sealNetwork]

end

/-! ### Both -/

namespace Invitation

/-- A receiver is about to publish its description, and a sender with a task waits for one. -/
structure Awaits (s : Sender) (r : Receiver) (j : Sender.Job) : Prop where
  advertising : s.stage = .advertising
  unread : s.peer = none
  job : s.job = some j
  idle : r.stage = .idle

/-- The receiver publishes, the sender reads that and writes, and the receiver is given what was written: it joins
the network. -/
def Joins (e₁ e₂ e₃ : Surroundings) (s : Sender) (r : Receiver) (table : TaskTable) (network : NetworkInfo) : Prop :=
  ∃ published written,
    (r.handle e₁ .publish).intents = [.publishDeviceInfo published] ∧
    (s.handle e₂ (.deviceInfoRead published) table).intents = [.writeCredentials written] ∧
    ((r.handle e₁ .publish).session.handle e₃ (.credentialsWritten written)).intents = [.joinNetwork network]

/-- What a receiver publishes about itself. -/
def description (e : Surroundings) (r : Receiver) : DeviceInfo :=
  Receiver.deviceInfo r.settings ((Receiver.credentialKey? e r.settings).map (·.publicText e.suite))

/-- A receiver that has published its description, and keeps the private key. -/
def listening (e : Surroundings) (r : Receiver) : Receiver :=
  { r with
    stage := .advertised
    credentialKey := (Receiver.credentialKey? e r.settings).or r.credentialKey }

/-- The network that the receiver gets to join: that of the sender, under the name of the sender. If both want
encryption, the version is lost on the way: sealing makes a new description, with the version of a new one, and
nothing puts back that of the network. -/
def described (s : Sender) (r : Receiver) (network : NetworkInfo) : NetworkInfo :=
  { network with
    id := some s.id
    catShare := if s.settings.encryption && r.settings.encryption then some 1 else network.catShare }

/-- A description has the public key of its receiver, if there is one. -/
@[simp] lemma key_description (e : Surroundings) (r : Receiver) :
    (description e r).key = (Receiver.credentialKey? e r.settings).map (·.publicText e.suite) := rfl

variable {e₁ e₂ e₃ : Surroundings} {s : Sender} {r : Receiver} {j : Sender.Job} {network network' written : NetworkInfo}
  {port : UInt16}

/-- A receiver joins one network only. -/
lemma Joins.unique {table : TaskTable} (h : Joins e₁ e₂ e₃ s r table network)
    (h' : Joins e₁ e₂ e₃ s r table network') : network = network' := by
  obtain ⟨published, written, hpublished, hwritten, hjoined⟩ := h
  obtain ⟨published', written', hpublished', hwritten', hjoined'⟩ := h'
  rw [hpublished] at hpublished'
  cases hpublished'
  rw [hwritten] at hwritten'
  cases hwritten'
  rw [hjoined] at hjoined'
  cases hjoined'
  rfl

/-- If the sender writes something that the receiver opens, the receiver joins the network in it. -/
lemma joins_of_opens (table : TaskTable) {used : Bool} (h : Awaits s r j)
    (hwrites : Sender.credentialsFor e₂ (description e₁ r) j.network { session := s, table } =
      .ok written { session := s, table, usedRandom := used })
    (hopens : Receiver.openCredentials e₃ written { session := listening e₁ r } =
      .ok network { session := { listening e₁ r with credentialKey := none } })
    (hport : network.servicePort? = some port) : Joins e₁ e₂ e₃ s r table network := by
  have hpublish : r.handle e₁ .publish =
      { session := listening e₁ r, intents := [.publishDeviceInfo _], usedRandom := r.settings.encryption } :=
    Receiver.handle_of_answers (by rw [h.idle]; rfl) (.published h.idle) (by simp [listening])
  have hread : s.handle e₂ (.deviceInfoRead _) table =
      { session := _, table, intents := [.writeCredentials _], usedRandom := used } :=
    Sender.handle_of_answers
      (.described h.advertising h.unread (DeviceInfo.decode_encode _) h.job hwrites) (by simp [h.advertising])
  have hjoin : (listening e₁ r).handle e₃ (.credentialsWritten _) =
      { session := _, intents := [.joinNetwork network] } :=
    Receiver.handle_of_answers rfl (.joins rfl (NetworkInfo.decode_encode _) hopens hport) (by simp)
  refine ⟨_, _, by rw [hpublish], by rw [← description, hread], ?_⟩
  rw [hpublish, hjoin]

/-- If one of them does not want encryption, the receiver joins the network as the sender knows it. -/
lemma joins_plain (table : TaskTable) (h : Awaits s r j)
    (hplain : (s.settings.encryption && r.settings.encryption) = false) (hkey : j.network.key = none)
    (hport : j.network.servicePort? = some port) : Joins e₁ e₂ e₃ s r table { j.network with id := some s.id } := by
  -- the receiver shows no key, or the sender does not look at it
  have hnone : (if s.settings.encryption then (description e₁ r).key else none) = none := by
    rw [key_description, Receiver.credentialKey?]
    split_ifs with hsender hreceiver
    · rw [hsender, hreceiver] at hplain
      cases hplain
    · rfl
    · rfl
  exact joins_of_opens table h (Sender.credentialsFor_plain hnone) (Receiver.openCredentials_plain hkey) hport

/-- If both want encryption, the receiver joins the network with the version of a sealed description. -/
lemma joins_sealed (table : TaskTable) (h : Awaits s r j)
    (hsealed : (s.settings.encryption && r.settings.encryption) = true)
    (hport : j.network.servicePort? = some port) (hsuite₂ : e₂.suite = e₁.suite) (hsuite₃ : e₃.suite = e₁.suite)
    (hfits : e₁.suite.Fits ⟨e₂.random⟩ ⟨e₁.random⟩) :
    Joins e₁ e₂ e₃ s r table { j.network with id := some s.id, key := none, catShare := some 1 } := by
  obtain ⟨hsender, hreceiver⟩ := Bool.and_eq_true_iff.1 hsealed
  obtain ⟨cipher, hhere, hthere⟩ := hfits
  have hkey : Receiver.credentialKey? e₁ r.settings = some ⟨e₁.random⟩ := if_pos hreceiver
  have hpeer : (description e₁ r).key = some (CredentialKey.publicText e₂.suite ⟨e₁.random⟩) := by
    rw [key_description, hkey, hsuite₂]
    rfl
  have hlistening : (listening e₁ r).credentialKey = some ⟨e₁.random⟩ := by rw [listening, hkey, Option.some_or]
  rw [← hsuite₂] at hhere
  rw [← hsuite₃] at hthere
  have hopens : Receiver.openCredentials e₃ (cipher.sealNetwork j.network s.id
      (CredentialKey.publicText e₃.suite ⟨e₂.random⟩)) { session := listening e₁ r } = _ :=
    Receiver.openCredentials_sealed hlistening hthere s.id
  rw [hsuite₃, ← hsuite₂] at hopens
  exact joins_of_opens table h (Sender.credentialsFor_sealed hsender hpeer hhere) hopens hport

/-- **The receiver joins the network that the sender described**, sealed or not: under the name of the sender, with
the same credentials and the same port. Only the version is lost if the description was sealed. If both want
encryption, their private keys must fit together. -/
theorem joins_described_network (table : TaskTable) (h : Awaits s r j) (hkey : j.network.key = none)
    (hport : j.network.servicePort? = some port) (hsuite₂ : e₂.suite = e₁.suite) (hsuite₃ : e₃.suite = e₁.suite)
    (hfits : (s.settings.encryption && r.settings.encryption) = true → e₁.suite.Fits ⟨e₂.random⟩ ⟨e₁.random⟩) :
    Joins e₁ e₂ e₃ s r table (described s r j.network) := by
  rw [described]
  cases hsealed : s.settings.encryption && r.settings.encryption with
  | false => exact joins_plain table h hsealed hkey hport
  | true =>
    have hjoins : Joins e₁ e₂ e₃ s r table _ := joins_sealed table h hsealed hport hsuite₂ hsuite₃ (hfits hsealed)
    rw [← hkey] at hjoins
    exact hjoins

/-- Primitives whose public keys are the private ones, and whose shared keys are sums. -/
def sumSuite : CredentialSuite where
  publicKey k := k.secret
  agree k peer := some ⟨fun block => block ^^^ BitVec.ofNat 128 (Bytes.toNatBE (Bytes.xor k.secret peer))⟩

/-- All private keys fit together under the sums. -/
lemma fits_sumSuite (k l : CredentialKey) : sumSuite.Fits k l := by
  have hcomm : Bytes.xor l.secret k.secret = Bytes.xor k.secret l.secret := List.zipWith_comm_of_comm UInt8.xor_comm
  exact ⟨_, rfl, by simp only [sumSuite, hcomm]⟩

/-- Surroundings with random bytes for a key. -/
def drawing (random : Bytes) : Surroundings := ⟨.ideal [], sumSuite, random, 0⟩

/-- A network with a version of its own. -/
def versionedNetwork : NetworkInfo := { NetworkInfo.plain "ssid" "psk" "mac" 8443 with catShare := some 7 }

/-- The work of a sender that has begun to send a text through that network. -/
def versionedJob : Sender.Job where
  taskId := "t"
  request := SharedTask.announce { id := "t", text := some "hello" } 0 "s" "left"
  network := versionedNetwork
  port := 8443

def versionedSender : Sender :=
  { settings := { deviceName := "left" }, id := "s", stage := .advertising, job := some versionedJob }

/-- A receiver that has done nothing yet. -/
def newReceiver : Receiver := { settings := { deviceName := "right" } }

/-- The sender of the example waits for the description of the receiver. -/
lemma awaits_versioned : Awaits versionedSender newReceiver versionedJob := ⟨rfl, rfl, rfl, rfl⟩

/-- The network of the example has a port. -/
lemma servicePort?_versioned : versionedJob.network.servicePort? = some 8443 := by decide

/-- Both want encryption, so that the receiver is given the version of a new description. -/
theorem joins_described_network_versioned :
    Joins (drawing [1]) (drawing [2]) (drawing [3]) versionedSender newReceiver { grace := 0, lifetime := 0 }
      { NetworkInfo.plain "ssid" "psk" "mac" 8443 with id := some "s" } :=
  joins_described_network _ awaits_versioned rfl servicePort?_versioned rfl rfl fun _ => fits_sumSuite _ _

/-- The receiver does not join the network with the version that the sender knows it by. -/
theorem not_joins_versioned :
    ¬Joins (drawing [1]) (drawing [2]) (drawing [3]) versionedSender newReceiver { grace := 0, lifetime := 0 }
      { versionedNetwork with id := some "s" } := by
  intro h
  have hsealed : Joins (drawing [1]) (drawing [2]) (drawing [3]) versionedSender newReceiver _ _ :=
    joins_sealed { grace := 0, lifetime := 0 } awaits_versioned rfl servicePort?_versioned rfl rfl
      (fits_sumSuite _ _)
  cases congrArg NetworkInfo.catShare (hsealed.unique h)

end Invitation

end DirectShare
