import Mathlib
import DirectShare.Proofs.Json.Fields
import DirectShare.Proofs.Session.Channel

/-!
# Two channels and an adversary

Two channels of opposite roles have agreed on a key. They are called in any order, and an adversary
decides which bytes they are given. What the right channel opens is then what the left channel has
sealed, in the same order and without gaps: the adversary can only cut the tail off.

A `Duplex` holds two channels with all sealings and messages so far, and a `Channel.Call` on one of them is a
step. `Duplex.Consistent` says that the sealings of the left channel are those of its sent messages, in their
order, and that the right channel has opened the first ones of them. `Duplex.Consistent.step` keeps that: a
nonce belongs to one count only, so that what is opened next can only be what was sealed next.
`Duplex.opened_isPrefix_sent` is the case of a whole run.
-/

namespace DirectShare

/-- A call on a channel. -/
inductive Channel.Call where
  /-- To send an action. -/
  | sendAction (action : Action) (body : Option Json)
  /-- To acknowledge an action. -/
  | sendAck (sequence : UInt32) (action : Action) (body : Option Json)
  /-- To take the bytes of a frame. -/
  | receive (bytes : Bytes)

/-- What a call gives. -/
inductive Channel.Answer where
  /-- The bytes of a frame to send. -/
  | frame (bytes : Bytes)
  /-- What was received. -/
  | inbound (inbound : Inbound)

/-- A body with the kind, the number and the action of its frame. -/
structure Message where
  kind : Frame.Kind
  /-- The number of the frame. -/
  sequence : UInt32
  /-- The action of the frame. -/
  action : Action
  body : Json

/-- The message in a frame with a sealed body, if it is one: what its bytes say, and the body. -/
def Message.ofSealed? (bytes : Bytes) (body : Json) : Option Message :=
  match Frame.decode bytes with
  | .ok ⟨kind, sequence, action, .sealed _⟩ => some { kind, sequence, action, body }
  | _ => none

namespace Channel.Call

/-- Makes the call. -/
def run (p : Provider) : Call → EStateM Failure Channel Answer
  | .sendAction action body => return .frame (← Channel.sendAction p action body)
  | .sendAck sequence action body => return .frame (← Channel.sendAck p sequence action body)
  | .receive bytes => return .inbound (← Channel.receive p bytes)

/-- A body that is to be sent is readable. -/
def IsReadable : Call → Prop
  | .sendAction _ (some body) | .sendAck _ _ (some body) => body.IsReadable Json.maxLevels
  | _ => True

/-- The message that a call seals, if it seals one: the frame that it gives, with the body that it was
given. -/
def sealed? : Call → Answer → Option Message
  | .sendAction _ body, .frame bytes | .sendAck _ _ body, .frame bytes =>
    body.bind (Message.ofSealed? bytes)
  | _, _ => none

/-- The message that a call opens, if it opens one: the number of the frame it is given, unless it says
the number itself, and what it says of the frame. -/
def opened? : Call → Answer → Option Message
  | .receive bytes, .inbound inbound =>
    match Frame.decode bytes, inbound with
    | .ok ⟨_, _, _, .sealed _⟩, .action sequence action (some body) =>
      some { kind := .action, sequence, action, body }
    | .ok ⟨_, sequence, _, .sealed _⟩, .ack action (some body) =>
      some { kind := .ack, sequence, action, body }
    | _, _ => none
  | _, _ => none

end Channel.Call

/-- The state that is left, also after a failure. -/
def Channel.after {α : Type} : EStateM.Result Failure Channel α → Channel
  | .ok _ ch | .error _ ch => ch

/-- What the answer of a call tells, if there is one. -/
def Channel.told {α β : Type} (tell : α → Option β) : EStateM.Result Failure Channel α → List β
  | .ok a _ => (tell a).toList
  | .error _ _ => []

/-- Two channels, with all sealings so far, the messages that the left one has sealed, and the messages
that the right one has opened. -/
structure Duplex where
  left : Channel
  right : Channel
  /-- All sealings so far. -/
  log : Set Sealing := ∅
  /-- What the left channel has sealed. -/
  sent : List Message := []
  /-- What the right channel has opened. -/
  opened : List Message := []

namespace Duplex

open Channel

/-- One call on one of the channels. The provider may be another one each time; it opens nothing but
what was sealed. The left channel is given readable bodies to send; for the rest the caller, who is the
adversary, is free. -/
inductive Step (key : SharedKey) : Duplex → Duplex → Prop
  /-- A call on the left channel. -/
  | left (d : Duplex) (p : Provider) (call : Call) : p.OpensOnly key d.log → call.IsReadable →
      Step key d
        { d with
          left := after (call.run p d.left)
          log := d.log ∪ {x | p.Makes (fun p => call.run p d.left) x}
          sent := d.sent ++ told call.sealed? (call.run p d.left) }
  /-- A call on the right channel. -/
  | right (d : Duplex) (p : Provider) (call : Call) : p.OpensOnly key d.log →
      Step key d
        { d with
          right := after (call.run p d.right)
          log := d.log ∪ {x | p.Makes (fun p => call.run p d.right) x}
          opened := d.opened ++ told call.opened? (call.run p d.right) }

/-- A channel has agreed on a key and has used it for nothing. -/
def IsFresh (role : Role) (key : SharedKey) (ch : Channel) : Prop :=
  ∃ c, ch.crypto = some c ∧ c.role = role ∧ c.key = some key ∧ c.sent = 0 ∧ c.received = 0

/-! ### What calls do -/

section Calls

variable {p : Provider} {ch : Channel} {c : CryptoContext} {key : SharedKey} {call : Call} {x : Sealing}

/-- A sealing that a call makes is that of a message, and the call seals that message. -/
lemma sealed_of_makes (hc : ch.crypto = some c) (hk : c.key = some key)
    (hx : p.Makes (fun p => call.run p ch) x) :
    ∃ m : Message, x = Sealing.ofBody key c.role c.sent m.kind m.sequence m.action m.body x.ciphertext ∧
      told call.sealed? (call.run p ch) = [m] := by
  obtain ⟨hp, hx⟩ := hx
  cases call with
  | sendAction action body =>
    have hsend : sendAction (p.without x) action body ch ≠ sendAction p action body ch := by
      intro heq
      apply hx
      simp only [Call.run, Steps.bind_apply, heq]
    obtain ⟨b, c', key', rfl, hc', hk', -, heq, hok⟩ := sendAction_without hsend hp
    obtain rfl : c' = c := by simpa [hc] using hc'.symm
    obtain rfl : key' = key := by simpa [hk] using hk'.symm
    refine ⟨⟨.action, ch.nextSequence, action, b⟩, heq, ?_⟩
    simp [Call.run, hok, told, Call.sealed?, Message.ofSealed?]
  | sendAck sequence action body =>
    have hsend : sendAck (p.without x) sequence action body ch ≠ sendAck p sequence action body ch := by
      intro heq
      apply hx
      simp only [Call.run, Steps.bind_apply, heq]
    obtain ⟨b, c', key', rfl, hc', hk', -, heq, hok⟩ := sendAck_without hsend hp
    obtain rfl : c' = c := by simpa [hc] using hc'.symm
    obtain rfl : key' = key := by simpa [hk] using hk'.symm
    refine ⟨⟨.ack, sequence, action, b⟩, heq, ?_⟩
    simp [Call.run, hok, told, Call.sealed?, Message.ofSealed?]
  | receive bytes => exact absurd rfl hx

/-- What sealing the body of a frame does to the count, and what the frame tells. -/
lemma count_sealBody {kind : Frame.Kind} {sequence : UInt32} {action : Action} {body : Option Json}
    {payload : Frame.Payload} {ch' : Channel}
    (h : sealBody p kind sequence action body ch = .ok payload ch') (hc : ch.crypto = some c)
    (hb : ∀ b, body = some b → b.IsReadable Json.maxLevels) :
    body.bind (Message.ofSealed? (Frame.encode ⟨kind, sequence, action, payload⟩)) = none ∧
        ch'.crypto = some c ∨
      ∃ m, body.bind (Message.ofSealed? (Frame.encode ⟨kind, sequence, action, payload⟩)) = some m ∧
        m.body.IsReadable Json.maxLevels ∧ ch'.crypto = some c.afterSealing ∧
        c.sent.toNat + 1 < UInt32.size := by
  obtain ⟨rfl, rfl, rfl⟩ | ⟨b, rfl, rfl, rfl, -⟩ |
      ⟨b, c', key', ciphertext, rfl, hc', -, -, hsent, -, rfl, rfl⟩ := sealBody_ok h
  · exact .inl ⟨rfl, hc⟩
  · have hdecode := Frame.decode_encode (f := ⟨kind, sequence, action, .json b⟩) (hb b rfl)
    refine .inl ⟨?_, hc⟩
    simp [Message.ofSealed?, hdecode]
  · obtain rfl : c' = c := by simpa [hc] using hc'.symm
    refine .inr ⟨⟨kind, sequence, action, b⟩, ?_, hb b rfl, rfl, hsent⟩
    simp [Message.ofSealed?]

/-- What becomes of a call that sends something: it fails and leaves the share in the encryption as it was, or it
gives the frame with the payload that the body is sealed to. -/
inductive Sends (p : Provider) (body : Option Json) (ch : Channel) : EStateM.Result Failure Channel Answer → Prop
  | refused {e : Failure} {ch' : Channel} : ch'.crypto = ch.crypto → Sends p body ch (.error e ch')
  | sent {kind : Frame.Kind} {sequence : UInt32} {action : Action} {payload : Frame.Payload} {ch₁ ch₂ ch' : Channel} :
      ch₁.crypto = ch.crypto → sealBody p kind sequence action body ch₁ = .ok payload ch₂ →
      ch'.crypto = ch₂.crypto →
      Sends p body ch (.ok (.frame (Frame.encode ⟨kind, sequence, action, payload⟩)) ch')

/-- What sending an action can give. -/
lemma sends_sendAction (p : Provider) (action : Action) (body : Option Json) (ch : Channel) :
    Sends p body ch ((Call.sendAction action body).run p ch) := by
  simp only [Call.run, Steps.bind_apply]
  cases hrun : sendAction p action body ch with
  | error e ch' => exact .refused (sendAction_error hrun)
  | ok bytes ch' =>
    obtain ⟨payload, ch₂, -, -, hseal, rfl, rfl⟩ := sendAction_ok hrun
    refine .sent ?_ hseal rfl
    rfl

/-- What sending an acknowledgement can give. -/
lemma sends_sendAck (p : Provider) (sequence : UInt32) (action : Action) (body : Option Json) (ch : Channel) :
    Sends p body ch ((Call.sendAck sequence action body).run p ch) := by
  simp only [Call.run, Steps.bind_apply]
  cases hrun : sendAck p sequence action body ch with
  | error e ch' => exact .refused (congrArg Channel.crypto (sendAck_error hrun))
  | ok bytes ch' =>
    obtain ⟨payload, hseal, rfl⟩ := sendAck_ok hrun
    exact .sent rfl hseal rfl

section Sends

variable {body : Option Json} {r : EStateM.Result Failure Channel Answer} {tell : Answer → Option Message}

/-- The message of a sealed body is counted. -/
lemma Sends.count (h : Sends p body ch r) (hc : ch.crypto = some c)
    (hb : ∀ b, body = some b → b.IsReadable Json.maxLevels)
    (htell : ∀ bytes, tell (.frame bytes) = body.bind (Message.ofSealed? bytes)) :
    ∃ c', (after r).crypto = some c' ∧ c'.role = c.role ∧ c'.key = c.key ∧
      (told tell r = [] ∧ c'.sent = c.sent ∨
        ∃ m, told tell r = [m] ∧ m.body.IsReadable Json.maxLevels ∧ c'.sent = c.sent + 1 ∧
          c.sent.toNat + 1 < UInt32.size) := by
  cases h with
  | refused hsame => exact ⟨c, hsame.trans hc, rfl, rfl, .inl ⟨rfl, rfl⟩⟩
  | sent hbefore hseal hafter =>
    obtain ⟨hnone, hcrypto⟩ | ⟨m, hm, hread, hcrypto, hsent⟩ := count_sealBody hseal (hbefore.trans hc) hb
    · exact ⟨c, hafter.trans hcrypto, rfl, rfl, .inl ⟨by simp [told, htell, hnone], rfl⟩⟩
    · exact ⟨c.afterSealing, hafter.trans hcrypto, rfl, rfl, .inr ⟨m, by simp [told, htell, hm], hread, rfl, hsent⟩⟩

/-- Nothing that is sent counts as received. -/
lemma Sends.exists_received (h : Sends p body ch r) (hc : ch.crypto = some c) (tell : Answer → Option Message)
    (htell : ∀ bytes, tell (.frame bytes) = none) :
    ∃ c', (after r).crypto = some c' ∧ c'.role = c.role ∧ c'.key = c.key ∧ told tell r = [] ∧
      c'.received = c.received := by
  cases h with
  | refused hsame => exact ⟨c, hsame.trans hc, rfl, rfl, rfl, rfl⟩
  | sent hbefore hseal hafter =>
    have htold : ∀ bytes ch', told tell (.ok (.frame bytes) ch') = [] := by simp [told, htell]
    obtain ⟨-, -, rfl⟩ | ⟨b, -, -, rfl, -⟩ | ⟨b, c', key', ciphertext, -, hc', -, -, -, -, -, rfl⟩ :=
      sealBody_ok hseal
    · exact ⟨c, hafter.trans (hbefore.trans hc), rfl, rfl, htold _ _, rfl⟩
    · exact ⟨c, hafter.trans (hbefore.trans hc), rfl, rfl, htold _ _, rfl⟩
    · obtain rfl : c' = c := Option.some.inj (hc'.symm.trans (hbefore.trans hc))
      exact ⟨c'.afterSealing, hafter, rfl, rfl, htold _ _, rfl⟩

end Sends

/-- What receiving a frame does to the share in the encryption. -/
lemma crypto_receive (p : Provider) (bytes : Bytes) (hc : ch.crypto = some c) :
    (after (Channel.receive p bytes ch)).crypto = some c ∨
      (after (Channel.receive p bytes ch)).crypto = some c.afterOpening := by
  cases hrun : Channel.receive p bytes ch with
  | error e ch' =>
    obtain ⟨rfl, -⟩ | ⟨f, ciphertext, c', key', plaintext, -, -, hc', -, -, -, -, rfl⟩ := receive_error hrun
    · exact .inl hc
    · obtain rfl : c' = c := by simpa [hc] using hc'.symm
      exact .inr rfl
  | ok inbound ch' =>
    obtain ⟨f, body, ch'', -, hopen, hcase⟩ := receive_ok hrun
    have hcrypto : ch'.crypto = ch''.crypto := by
      obtain ⟨-, -, -, rfl⟩ | ⟨-, -, -, rfl⟩ := hcase <;> rfl
    rw [after, hcrypto]
    obtain ⟨-, -, rfl⟩ | ⟨b, -, -, rfl, -⟩ | ⟨ciphertext, c', key', plaintext, b, -, hc', -, -, -, -, rfl⟩ :=
      openBody_ok hopen
    · exact .inl hc
    · exact .inl hc
    · obtain rfl : c' = c := by simpa [hc] using hc'.symm
      exact .inr rfl

/-- What a call does to the share in the encryption of a side that sends readable bodies: each message
it seals is counted. -/
lemma count_sent (hc : ch.crypto = some c) (hcall : call.IsReadable) :
    ∃ c', (after (call.run p ch)).crypto = some c' ∧ c'.role = c.role ∧ c'.key = c.key ∧
      (told call.sealed? (call.run p ch) = [] ∧ c'.sent = c.sent ∨
        ∃ m, told call.sealed? (call.run p ch) = [m] ∧ m.body.IsReadable Json.maxLevels ∧
          c'.sent = c.sent + 1 ∧ c.sent.toNat + 1 < UInt32.size) := by
  cases call with
  | sendAction action body =>
    refine (sends_sendAction p action body ch).count hc ?_ fun _ => rfl
    rintro b rfl
    exact hcall
  | sendAck sequence action body =>
    refine (sends_sendAck p sequence action body ch).count hc ?_ fun _ => rfl
    rintro b rfl
    exact hcall
  | receive bytes =>
    have hcrypto := crypto_receive p bytes hc
    simp only [Call.run, Steps.bind_apply]
    cases hrun : Channel.receive p bytes ch with
    | error e ch' =>
      rw [hrun] at hcrypto
      obtain hcrypto | hcrypto := hcrypto
      · exact ⟨c, hcrypto, rfl, rfl, .inl ⟨rfl, rfl⟩⟩
      · exact ⟨c.afterOpening, hcrypto, rfl, rfl, .inl ⟨rfl, rfl⟩⟩
    | ok inbound ch' =>
      rw [hrun] at hcrypto
      obtain hcrypto | hcrypto := hcrypto
      · exact ⟨c, hcrypto, rfl, rfl, .inl ⟨rfl, rfl⟩⟩
      · exact ⟨c.afterOpening, hcrypto, rfl, rfl, .inl ⟨rfl, rfl⟩⟩

/-- What a call does to the share in the encryption of a side: each text it opens is counted, and gives a
message if it is a body. -/
lemma count_opened (p : Provider) (call : Call) (hc : ch.crypto = some c) (hk : c.key = some key) :
    ∃ c', (after (call.run p ch)).crypto = some c' ∧ c'.role = c.role ∧ c'.key = c.key ∧
      (told call.opened? (call.run p ch) = [] ∧ c'.received = c.received ∨
        ∃ kind sequence action ciphertext plaintext,
          p.decrypt key (CryptoContext.nonce c.role.peer sequence c.received)
            (Utf8.encode (String.ofList (Frame.headerChars kind sequence action))) ciphertext =
              .ok plaintext ∧
          c'.received = c.received + 1 ∧
          told call.opened? (call.run p ch) =
            ((Json.parseBytes plaintext).map (Message.mk kind sequence action)).toList) := by
  cases call with
  | sendAction action body =>
    obtain ⟨c', hc', hrole, hkey, hcount⟩ :=
      (sends_sendAction p action body ch).exists_received hc (Call.sendAction action body).opened? fun _ => rfl
    exact ⟨c', hc', hrole, hkey, .inl hcount⟩
  | sendAck sequence action body =>
    obtain ⟨c', hc', hrole, hkey, hcount⟩ :=
      (sends_sendAck p sequence action body ch).exists_received hc (Call.sendAck sequence action body).opened?
        fun _ => rfl
    exact ⟨c', hc', hrole, hkey, .inl hcount⟩
  | receive bytes =>
    simp only [Call.run, Steps.bind_apply]
    cases hrun : Channel.receive p bytes ch with
    | error e ch' =>
      obtain ⟨rfl, -⟩ | ⟨f, ciphertext, c', key', plaintext, hdecode, hf, hc', hk', hopen, hparse, -, rfl⟩ :=
        receive_error hrun
      · exact ⟨c, hc, rfl, rfl, .inl ⟨rfl, rfl⟩⟩
      · obtain rfl : c' = c := by simpa [hc] using hc'.symm
        obtain rfl : key' = key := by simpa [hk] using hk'.symm
        refine ⟨c'.afterOpening, rfl, rfl, rfl, .inr ⟨f.kind, f.sequence, f.action, ciphertext, plaintext,
          hopen, rfl, ?_⟩⟩
        simp [told, hparse]
    | ok inbound ch' =>
      obtain ⟨f, body, ch'', hdecode, hopen, hcase⟩ := receive_ok hrun
      have hcrypto : ch'.crypto = ch''.crypto := by
        obtain ⟨-, -, -, rfl⟩ | ⟨-, -, -, rfl⟩ := hcase <;> rfl
      obtain ⟨kind, sequence, action, payload⟩ := f
      obtain ⟨hf, -, rfl⟩ | ⟨b, hf, -, rfl, -⟩ |
          ⟨ciphertext, c', key', plaintext, b, hf, hc', hk', hdecrypt, hparse, rfl, rfl⟩ := openBody_ok hopen
      · subst hf
        exact ⟨c, hcrypto.trans hc, rfl, rfl, .inl ⟨by simp [told, Call.opened?, hdecode], rfl⟩⟩
      · subst hf
        exact ⟨c, hcrypto.trans hc, rfl, rfl, .inl ⟨by simp [told, Call.opened?, hdecode], rfl⟩⟩
      · subst hf
        obtain rfl : c' = c := by simpa [hc] using hc'.symm
        obtain rfl : key' = key := by simpa [hk] using hk'.symm
        refine ⟨c'.afterOpening, hcrypto, rfl, rfl, .inr ⟨kind, sequence, action, ciphertext, plaintext,
          hdecrypt, rfl, ?_⟩⟩
        obtain ⟨rfl, -, rfl, -⟩ | ⟨rfl, -, rfl, -⟩ := hcase
        · simp [told, Call.opened?, hdecode, hparse]
        · simp [told, Call.opened?, hdecode, hparse]

end Calls

/-! ### Runs -/

variable {key : SharedKey} {role : Role} {d d' : Duplex}

/-- What was sealed and opened fits together: the left channel has counted what it has sealed, the right
channel has opened as many of these messages as it has counted, and every sealing with a nonce of the
left side is that of the message at its count. -/
structure Consistent (role : Role) (key : SharedKey) (d : Duplex) : Prop where
  /-- The left channel counts the sent messages. -/
  left : ∃ c, d.left.crypto = some c ∧ c.role = role ∧ c.key = some key ∧ c.sent.toNat = d.sent.length
  /-- The right channel counts the opened messages, which were sent. -/
  right : ∃ c, d.right.crypto = some c ∧ c.role = role.peer ∧ c.key = some key ∧
    c.received.toNat ≤ d.sent.length ∧ d.opened = d.sent.take c.received.toNat
  /-- The sent messages are readable. -/
  readable : ∀ m ∈ d.sent, m.body.IsReadable Json.maxLevels
  /-- A sealing of the left side is that of a sent message. -/
  log : ∀ x ∈ d.log, ∀ sequence counter, x.nonce = CryptoContext.nonce role sequence counter →
    ∃ m, d.sent[counter.toNat]? = some m ∧
      x = Sealing.ofBody key role counter m.kind m.sequence m.action m.body x.ciphertext

/-- Two fresh channels are consistent. -/
lemma Consistent.start {a b : Channel} (ha : IsFresh role key a) (hb : IsFresh role.peer key b) :
    Consistent role key { left := a, right := b } := by
  obtain ⟨c, hc, hrole, hkey, hsent, -⟩ := ha
  obtain ⟨c', hc', hrole', hkey', -, hreceived⟩ := hb
  constructor
  · exact ⟨c, hc, hrole, hkey, by simp [hsent]⟩
  · exact ⟨c', hc', hrole', hkey', by simp [hreceived], by simp⟩
  · simp
  · simp

/-- A call on the left channel keeps what was sealed consistent. -/
lemma Consistent.log_left (p : Provider) (call : Call) {c : CryptoContext}
    (h : Consistent role key d) (hc : d.left.crypto = some c) (hrole : c.role = role) (hk : c.key = some key)
    (hsent : c.sent.toNat = d.sent.length) :
    ∀ x ∈ d.log ∪ {x | p.Makes (fun p => call.run p d.left) x},
      ∀ sequence counter, x.nonce = CryptoContext.nonce role sequence counter →
        ∃ m, (d.sent ++ told call.sealed? (call.run p d.left))[counter.toNat]? = some m ∧
          x = Sealing.ofBody key role counter m.kind m.sequence m.action m.body x.ciphertext := by
  intro x hx sequence counter hnonce
  cases hx with
  | inl hx =>
    obtain ⟨m, hm, heq⟩ := h.log x hx sequence counter hnonce
    refine ⟨m, ?_, heq⟩
    rw [List.getElem?_append_left (List.getElem?_eq_some_iff.1 hm).1]
    exact hm
  | inr hx =>
    obtain ⟨m, heq, htold⟩ := sealed_of_makes hc hk hx
    rw [heq] at hnonce
    obtain ⟨-, -, hcounter⟩ := CryptoContext.nonce_injective hnonce
    subst hcounter
    refine ⟨m, ?_, hrole ▸ heq⟩
    rw [htold, hsent]
    simp

/-- A call on the right channel opens the next message, if it opens one. -/
lemma Consistent.opens_next {sequence counter : UInt32} {kind : Frame.Kind} {action : Action}
    {ciphertext plaintext : Bytes} (h : Consistent role key d)
    (hlog : ⟨key, CryptoContext.nonce role sequence counter,
      Utf8.encode (String.ofList (Frame.headerChars kind sequence action)), plaintext, ciphertext⟩ ∈ d.log) :
    ∃ m, d.sent[counter.toNat]? = some m ∧
      (Json.parseBytes plaintext).map (Message.mk kind sequence action) = some m := by
  obtain ⟨m, hm, heq⟩ := h.log _ hlog sequence counter rfl
  simp only [Sealing.ofBody, Sealing.mk.injEq] at heq
  obtain ⟨-, -, hheader, hplaintext, -⟩ := heq
  obtain ⟨rfl, rfl, rfl⟩ :=
    Frame.headerChars_injective (String.ofList_inj.1 (Utf8.encode_injective hheader))
  have hread := h.readable m (List.mem_of_getElem? hm)
  refine ⟨m, hm, ?_⟩
  rw [hplaintext, Json.parseBytes_render hread]
  rfl

/-- A call keeps what was sealed and opened consistent. -/
theorem Consistent.step (h : Consistent role key d) (hstep : Step key d d') : Consistent role key d' := by
  obtain ⟨cl, hcl, hrolel, hkeyl, hsent⟩ := h.left
  obtain ⟨cr, hcr, hroler, hkeyr, hle, hopened⟩ := h.right
  cases hstep with
  | left p call hp hcall =>
    have hlog := h.log_left p call hcl hrolel hkeyl hsent
    obtain ⟨c', hc', hrole', hkey', hcount⟩ := count_sent (p := p) hcl hcall
    obtain ⟨hnone, hsame⟩ | ⟨m, hm, hmread, hnext, hbound⟩ := hcount
    · refine ⟨⟨c', hc', hrole'.trans hrolel, hkey'.trans hkeyl, ?_⟩,
        ⟨cr, hcr, hroler, hkeyr, ?_, ?_⟩, ?_, hlog⟩
      · simp [hnone, hsame, hsent]
      · simpa [hnone] using hle
      · simpa [hnone] using hopened
      · simpa [hnone] using h.readable
    · have hlength : c'.sent.toNat = (d.sent ++ [m]).length := by
        have hone : (1 : UInt32).toNat = 1 := rfl
        have hsize : UInt32.size = 2 ^ 32 := rfl
        rw [hnext, UInt32.toNat_add, hone, List.length_append, List.length_singleton]
        omega
      refine ⟨⟨c', hc', hrole'.trans hrolel, hkey'.trans hkeyl, ?_⟩,
        ⟨cr, hcr, hroler, hkeyr, ?_, ?_⟩, ?_, hlog⟩
      · rw [hm]
        exact hlength
      · rw [hm, List.length_append]
        omega
      · rw [hm, List.take_append_of_le_length hle]
        exact hopened
      · rw [hm]
        simpa [or_imp, forall_and] using ⟨h.readable, hmread⟩
  | right p call hp =>
    obtain ⟨c', hc', hrole', hkey', hcount⟩ := count_opened p call hcr hkeyr
    have hlog : ∀ x ∈ d.log ∪ {x | p.Makes (fun p => call.run p d.right) x},
        ∀ sequence counter, x.nonce = CryptoContext.nonce role sequence counter →
          ∃ m, d.sent[counter.toNat]? = some m ∧
            x = Sealing.ofBody key role counter m.kind m.sequence m.action m.body x.ciphertext := by
      intro x hx sequence counter hnonce
      cases hx with
      | inl hx => exact h.log x hx sequence counter hnonce
      | inr hx =>
        -- the right side seals under nonces of its own
        obtain ⟨m, heq, -⟩ := sealed_of_makes hcr hkeyr hx
        rw [heq] at hnonce
        obtain ⟨hrole, -, -⟩ := CryptoContext.nonce_injective hnonce
        rw [hroler] at hrole
        cases role <;> cases hrole
    obtain ⟨hnone, hsame⟩ | ⟨kind, sequence, action, ciphertext, plaintext, hdecrypt, hnext, htold⟩ := hcount
    · refine ⟨⟨cl, hcl, hrolel, hkeyl, hsent⟩,
        ⟨c', hc', hrole'.trans hroler, hkey'.trans hkeyr, ?_, ?_⟩, h.readable, hlog⟩
      · simpa [hsame] using hle
      · simpa [hnone, hsame] using hopened
    · rw [hroler, Role.peer_peer] at hdecrypt
      obtain ⟨m, hm, hparse⟩ := h.opens_next (hp _ _ _ _ hdecrypt)
      have hlt : cr.received.toNat < d.sent.length := (List.getElem?_eq_some_iff.1 hm).1
      have hreceived : c'.received.toNat = cr.received.toNat + 1 := by
        have hone : (1 : UInt32).toNat = 1 := rfl
        have hbound := cl.sent.toNat_lt
        rw [hnext, UInt32.toNat_add, hone]
        omega
      refine ⟨⟨cl, hcl, hrolel, hkeyl, hsent⟩,
        ⟨c', hc', hrole'.trans hroler, hkey'.trans hkeyr, ?_, ?_⟩, h.readable, hlog⟩
      · rw [hreceived]
        exact hlt
      · rw [hreceived, List.take_add_one, hm, htold, hparse, hopened]

/-- What the right channel has opened is a prefix of what the left channel has sealed. -/
theorem opened_isPrefix_sent {a b : Channel} (ha : IsFresh role key a) (hb : IsFresh role.peer key b)
    (h : Relation.ReflTransGen (Step key) { left := a, right := b } d) : d.opened <+: d.sent := by
  have hd : Consistent role key d := by
    induction h with
    | refl => exact Consistent.start ha hb
    | tail _ hstep ih => exact ih.step hstep
  obtain ⟨c, -, -, -, -, hopened⟩ := hd.right
  rw [hopened]
  exact List.take_prefix _ _

/-! ### A first message -/

/-- The share of a side in a fresh key. -/
def freshContext (role : Role) : CryptoContext := { role, keyPair := none, key := some ⟨[1, 2, 3]⟩ }

/-- The channel of a side under a fresh key. -/
def freshChannel (role : Role) : Channel := { Channel.start role with crypto := some (freshContext role) }

/-- The fresh channel is fresh. -/
lemma isFresh_freshChannel (role : Role) : IsFresh role ⟨[1, 2, 3]⟩ (freshChannel role) :=
  ⟨freshContext role, rfl, rfl, rfl, rfl, rfl⟩

/-- The sealing of a first report of the sender. -/
def firstSealing : Sealing :=
  Sealing.ofBody ⟨[1, 2, 3]⟩ .sender 0 .action 0 .status .null (Utf8.encode Json.null.render)

/-- The frame with that report. -/
def firstFrame : Frame := ⟨.action, 0, .status, .sealed firstSealing.ciphertext⟩

/-- The first call sends the first frame. -/
lemma run_first : (Call.sendAction .status (some .null)).run (Provider.ideal []) (freshChannel .sender) =
    .ok (.frame firstFrame.encode)
      { freshChannel .sender with
        nextSequence := 1
        pending := some (0, .status)
        crypto := some (freshContext .sender).afterSealing } := rfl

/-- Sending a first report makes its sealing. -/
lemma makes_first : (Provider.ideal []).Makes
    (fun p => (Call.sendAction .status (some .null)).run p (freshChannel .sender)) firstSealing := by
  refine ⟨rfl, ?_⟩
  have hrefused : Channel.sendAction ((Provider.ideal []).without firstSealing) .status (some .null)
      (freshChannel .sender) =
        .error (.crypto .encryption) { freshChannel .sender with nextSequence := 1 } := by
    have hcrypto : (freshChannel .sender).crypto = some (freshContext .sender) := rfl
    have hkey : (freshContext .sender).key = some ⟨[1, 2, 3]⟩ := rfl
    have hstatus : Action.status ≠ .versionNegotiation := nofun
    exact sendAction_refused hcrypto hkey hstatus rfl (by decide) firstSealing.ciphertext
  have hrun : (Call.sendAction .status (some .null)).run ((Provider.ideal []).without firstSealing)
      (freshChannel .sender) =
        .error (.crypto .encryption) { freshChannel .sender with nextSequence := 1 } := by
    rw [Call.run, Steps.bind_apply, hrefused]
  simp only [run_first, hrun]
  exact fun heq => by cases heq

/-- Receiving a first report. -/
lemma receive_first : receive (Provider.ideal [firstSealing]) firstFrame.encode (freshChannel .receiver) =
    .ok (.action 0 .status (some .null))
      { freshChannel .receiver with
        lastPeerSequence := some 0
        crypto := some (freshContext .receiver).afterOpening } := by
  have hopen : openBody (Provider.ideal [firstSealing]) firstFrame (freshChannel .receiver) = _ :=
    openBody_sealed rfl rfl rfl (Provider.decrypt_ideal_cons firstSealing []) Json.IsReadable.null
  exact receive_of_action (f := firstFrame) trivial rfl (by simp [freshChannel, Channel.start]) hopen

/-- The other channel receives the first frame. -/
lemma run_receive_first :
    (Call.receive firstFrame.encode).run (Provider.ideal [firstSealing]) (freshChannel .receiver) =
      .ok (.inbound (.action 0 .status (some .null)))
        { freshChannel .receiver with
          lastPeerSequence := some 0
          crypto := some (freshContext .receiver).afterOpening } := by
  rw [Call.run, Steps.bind_apply, receive_first]
  rfl

/-- Two channels after a first report was sent. -/
def afterFirst : Duplex :=
  let call : Call := .sendAction .status (some .null)
  { left := after (call.run (Provider.ideal []) (freshChannel .sender))
    right := freshChannel .receiver
    log := ∅ ∪ {x | (Provider.ideal []).Makes (fun p => call.run p (freshChannel .sender)) x}
    sent := [] ++ told call.sealed? (call.run (Provider.ideal []) (freshChannel .sender)) }

/-- The first message that the left channel seals is opened by the right channel. -/
theorem opened_isPrefix_sent_first : ∃ d : Duplex,
    d.opened = [⟨.action, 0, .status, .null⟩] ∧ d.opened <+: d.sent := by
  have hleft : Step ⟨[1, 2, 3]⟩ { left := freshChannel .sender, right := freshChannel .receiver } afterFirst :=
    Step.left _ (Provider.ideal []) (.sendAction .status (some .null))
      (Provider.opensOnly_ideal (by simp) _) Json.IsReadable.null
  have hknown : ∀ x ∈ [firstSealing], x ∈ afterFirst.log := by
    simpa [afterFirst] using makes_first
  have hright := Step.right afterFirst (Provider.ideal [firstSealing]) (.receive firstFrame.encode)
    (Provider.opensOnly_ideal hknown ⟨[1, 2, 3]⟩)
  refine ⟨_, ?_, opened_isPrefix_sent (isFresh_freshChannel .sender) (isFresh_freshChannel .receiver)
    ((Relation.ReflTransGen.single hleft).tail hright)⟩
  have hrun : (Call.receive firstFrame.encode).run (Provider.ideal [firstSealing]) afterFirst.right = _ :=
    run_receive_first
  simp only [hrun]
  simp [afterFirst, told, Call.opened?, firstFrame]

end Duplex

end DirectShare
