import Mathlib
import DirectShare.Proofs.Session.Duplex

/-!
# What failed calls leave

A call that fails leaves the channel as it was, but for two cases. An action takes its number before its body
is sealed, so the number is used up where sealing fails. And a text that was opened is counted, in step with
the side that has sealed it, even if it turns out to be no body.

`Channel.Call.afterFailure` is the channel that a failed call leaves, and `Channel.run_error` shows that for
every call. What is received does not depend on the numbers of the own frames (`Channel.receive_renumbered`),
so that the two exceptions are harmless to the other direction. `Channel.left_by_failed_call` states what is
left, field by field.
-/

namespace DirectShare.Channel

variable {p : Provider} {ch ch' : Channel} {call : Call} {e : Failure} {f : Frame} {bytes : Bytes}

/-- The channel that a failed call leaves: an action whose body could not be sealed has used up its number, and
a text that was opened is counted even if it is no body. -/
def Call.afterFailure : Call → Failure → Channel → Channel
  | .sendAction _ _, .crypto _, ch => { ch with nextSequence := ch.nextSequence + 1 }
  | .receive _, .sealedBody, ch => { ch with crypto := ch.crypto.map CryptoContext.afterOpening }
  | _, _, ch => ch

/-- An action that fails before it is sealed leaves the channel as it was. -/
lemma afterFailure_sendAction {action : Action} {body : Option Json} (h : ∀ reason, e ≠ .crypto reason) :
    (Call.sendAction action body).afterFailure e ch = ch := by
  cases e with
  | crypto reason => exact absurd rfl (h reason)
  | _ => rfl

/-- A frame that is refused before it is opened leaves the channel as it was. -/
lemma afterFailure_receive (h : e ≠ .sealedBody) : (Call.receive bytes).afterFailure e ch = ch := by
  cases e with
  | sealedBody => exact absurd rfl h
  | _ => rfl

/-- A call fails as the operation that it makes. -/
lemma error_of_map_error {α β : Type} {act : EStateM Failure Channel α} {g : α → β}
    (h : (do return g (← act) : EStateM Failure Channel β) ch = .error e ch') : act ch = .error e ch' := by
  rw [Steps.bind_apply] at h
  cases hrun : act ch with
  | ok a ch'' =>
    rw [hrun] at h
    cases h
  | error reason ch'' =>
    rw [hrun] at h
    cases h
    rfl

/-- A call succeeds if the operation that it makes does. -/
lemma ok_of_map_ok {α β : Type} {act : EStateM Failure Channel α} {g : α → β} {b : β}
    (h : (do return g (← act) : EStateM Failure Channel β) ch = .ok b ch') : ∃ a, act ch = .ok a ch' := by
  rw [Steps.bind_apply] at h
  cases hrun : act ch with
  | ok a ch'' =>
    rw [hrun] at h
    cases h
    exact ⟨a, rfl⟩
  | error reason ch'' =>
    rw [hrun] at h
    cases h

/-- What a failed call leaves. -/
theorem run_error (h : call.run p ch = .error e ch') : ch' = call.afterFailure e ch := by
  cases call with
  | sendAction action body =>
    obtain ⟨rfl, -, -, hreason⟩ | ⟨-, rfl, reason, rfl⟩ := sendAction_failed (error_of_map_error h)
    · exact (afterFailure_sendAction hreason).symm
    · rfl
  | sendAck sequence action body => exact sendAck_error (error_of_map_error h)
  | receive bytes =>
    obtain ⟨rfl, hreason⟩ | ⟨f, ciphertext, c, key, plaintext, -, -, hc, -, -, -, rfl, rfl⟩ :=
      receive_error (error_of_map_error h)
    · exact (afterFailure_receive hreason).symm
    · rw [Call.afterFailure, hc, Option.map_some]

/-- A failed call keeps what is waited for, and the last number received. -/
lemma kept_of_error (h : call.run p ch = .error e ch') :
    ch'.pending = ch.pending ∧ ch'.lastPeerSequence = ch.lastPeerSequence := by
  rw [run_error h]
  unfold Call.afterFailure
  split <;> exact ⟨rfl, rfl⟩

/-- A failed call uses up no number, or that of an action whose body could not be sealed. -/
lemma nextSequence_of_error (h : call.run p ch = .error e ch') :
    ch'.nextSequence = ch.nextSequence ∨
      (∃ action body, call = .sendAction action body) ∧ (∃ reason, e = .crypto reason) ∧
        ch.nextSequence.toNat + 1 < UInt32.size ∧ ch'.nextSequence = ch.nextSequence + 1 := by
  cases call with
  | sendAction action body =>
    obtain ⟨rfl, -⟩ | ⟨hroom, rfl, hreason⟩ := sendAction_failed (error_of_map_error h)
    · exact .inl rfl
    · exact .inr ⟨⟨action, body, rfl⟩, hreason, hroom, rfl⟩
  | sendAck sequence action body =>
    rw [sendAck_error (error_of_map_error h)]
    exact .inl rfl
  | receive bytes =>
    rw [run_error h]
    cases e <;> exact .inl rfl

/-! ### The own numbers -/

/-- An outcome with another number for the next action. -/
def renumbered {α : Type} (n : UInt32) :
    EStateM.Result Failure Channel α → EStateM.Result Failure Channel α
  | .ok a ch => .ok a { ch with nextSequence := n }
  | .error e ch => .error e { ch with nextSequence := n }

/-- How a body is opened does not depend on the own numbers. -/
lemma openBody_renumbered (p : Provider) (f : Frame) (ch : Channel) (n : UInt32) :
    openBody p f { ch with nextSequence := n } = renumbered n (openBody p f ch) := by
  have hest : established? { ch with nextSequence := n } = ch.established? := rfl
  cases hf : f.payload with
  | empty =>
    rw [openBody_empty hf, openBody_empty hf]
    rfl
  | json body =>
    rw [openBody_json hf, openBody_json hf, hest]
    split_ifs <;> rfl
  | «sealed» ciphertext =>
    cases hestablished : ch.established? with
    | none =>
      rw [openBody_unkeyed hf hestablished, openBody_unkeyed hf (hest.trans hestablished)]
      rfl
    | some c =>
      obtain ⟨hc, key, hk⟩ := established?_eq_some.1 hestablished
      have hc' : Channel.crypto { ch with nextSequence := n } = some c := hc
      rw [openBody_keyed hf hc hk, openBody_keyed hf hc' hk]
      split
      · rfl
      · split <;> rfl

/-- What is received does not depend on the own numbers. -/
theorem receive_renumbered (p : Provider) (bytes : Bytes) (ch : Channel) (n : UInt32) :
    receive p bytes { ch with nextSequence := n } = renumbered n (receive p bytes ch) := by
  cases hdecode : Frame.decode bytes with
  | error reason =>
    rw [receive_of_decode_error hdecode, receive_of_decode_error hdecode]
    rfl
  | ok f =>
    by_cases hturn : ch.IsInTurn f
    · have hturn' : IsInTurn { ch with nextSequence := n } f := hturn
      rw [receive_of_isInTurn hdecode hturn, receive_of_isInTurn hdecode hturn', openBody_renumbered]
      cases openBody p f ch with
      | ok body ch' =>
        simp only [renumbered, afterReceiving]
        cases f.kind <;> rfl
      | error e ch' => rfl
    · obtain ⟨e, -, -, hreceive⟩ := receive_of_not_isInTurn hdecode hturn
      rw [hreceive p ch rfl rfl, hreceive p { ch with nextSequence := n } rfl rfl]
      rfl

/-- A failed call keeps the action that is waited for and the last number of the other side. It uses up a number
only for an action that could not be sealed, and it counts a text only if that was opened and is no body. In all
other cases, the next frame is received as if the call had not been made. -/
theorem left_by_failed_call (h : call.run p ch = .error e ch') :
    ch'.pending = ch.pending ∧ ch'.lastPeerSequence = ch.lastPeerSequence ∧
      (ch'.nextSequence = ch.nextSequence ∨
        (∃ action body, call = .sendAction action body) ∧ (∃ reason, e = .crypto reason) ∧
          ch.nextSequence.toNat + 1 < UInt32.size ∧ ch'.nextSequence = ch.nextSequence + 1) ∧
      (ch'.crypto = ch.crypto ∨
        (∃ bytes, call = .receive bytes) ∧ e = .sealedBody ∧
          ch'.crypto = ch.crypto.map CryptoContext.afterOpening) ∧
      (e ≠ .sealedBody → ∀ q bytes, receive q bytes ch' = renumbered ch'.nextSequence (receive q bytes ch)) := by
  obtain ⟨hpending, hlast⟩ := kept_of_error h
  refine ⟨hpending, hlast, nextSequence_of_error h, ?_⟩
  rw [run_error h]
  unfold Call.afterFailure
  split
  · exact ⟨.inl rfl, fun _ q bytes => receive_renumbered q bytes ch _⟩
  · exact ⟨.inr ⟨⟨_, rfl⟩, rfl, rfl⟩, fun hne => absurd rfl hne⟩
  · exact ⟨.inl rfl, fun _ q bytes => receive_renumbered q bytes ch _⟩

/-- The ideal provider that refuses to seal. -/
def refusing (log : List Sealing) : Provider :=
  { Provider.ideal log with encrypt := fun _ _ _ _ => .error .encryption }

/-- A report whose body is refused uses up its number. -/
lemma run_refused (log : List Sealing) :
    (Call.sendAction .status (some .null)).run (refusing log) (Duplex.freshChannel .receiver) =
      .error (.crypto .encryption) { Duplex.freshChannel .receiver with nextSequence := 101 } := rfl

/-- A report whose body is refused uses up its number, and the first report of the other side is received all the
same. -/
theorem left_by_failed_call_refused :
    ∃ ch', (Call.sendAction .status (some .null)).run (refusing []) (Duplex.freshChannel .receiver) =
        .error (.crypto .encryption) ch' ∧
      ∃ ch'', receive (Provider.ideal [Duplex.firstSealing]) Duplex.firstFrame.encode ch' =
        .ok (.action 0 .status (some .null)) ch'' := by
  obtain ⟨-, -, -, -, hlater⟩ := left_by_failed_call (run_refused [])
  refine ⟨_, run_refused [], ?_⟩
  rw [hlater nofun, Duplex.receive_first]
  exact ⟨_, rfl⟩

/-- The empty text, sealed for the first report of the sender. -/
def emptySealing : Sealing :=
  ⟨⟨[1, 2, 3]⟩, CryptoContext.nonce .sender 0 0, Utf8.encode (String.ofList (Frame.headerChars .action 0 .status)),
    [], []⟩

/-- The frame with that text. -/
def emptyFrame : Frame := ⟨.action, 0, .status, .sealed emptySealing.ciphertext⟩

/-- A text that was opened is counted even if it is no body. -/
lemma openBody_sealed_of_parseBytes {c : CryptoContext} {key : SharedKey} {ciphertext plaintext : Bytes}
    (hf : f.payload = .sealed ciphertext) (hc : ch.crypto = some c) (hk : c.key = some key)
    (hopen : p.decrypt key (CryptoContext.nonce c.role.peer f.sequence c.received) (Utf8.encode f.header)
      ciphertext = .ok plaintext)
    (hparse : Json.parseBytes plaintext = none) :
    openBody p f ch = .error .sealedBody { ch with crypto := some c.afterOpening } := by
  simp only [openBody_keyed hf hc hk, hopen, hparse]

/-- A report with the empty text in place of its body is opened, but not received. -/
lemma receive_empty :
    receive (refusing [emptySealing]) emptyFrame.encode (Duplex.freshChannel .receiver) =
      .error .sealedBody
        { Duplex.freshChannel .receiver with crypto := some (Duplex.freshContext .receiver).afterOpening } := by
  have hparse : Json.parseBytes emptySealing.plaintext = none := by cbv
  have hopen : openBody (refusing [emptySealing]) emptyFrame (Duplex.freshChannel .receiver) = _ :=
    openBody_sealed_of_parseBytes rfl rfl rfl (Provider.decrypt_ideal_cons emptySealing []) hparse
  have hdecode : Frame.decode emptyFrame.encode = .ok emptyFrame := Frame.decode_encode trivial
  have hturn : (Duplex.freshChannel .receiver).IsInTurn emptyFrame := by
    intro n hlast
    cases hlast
  rw [receive_of_isInTurn hdecode hturn, hopen]

/-- Failed calls count: a channel has just agreed on a key, an action that is not sent uses up a number, and a
frame that is not received counts as opened. -/
theorem failed_calls_count :
    let p := refusing [emptySealing]
    let ch := Duplex.freshChannel .receiver
    (∃ c, CryptoContext.create p .receiver [1, 2, 3] = .ok c ∧
      derive p "AAAA" { Channel.start .receiver with crypto := some c } = .ok () ch) ∧
    (∃ (call : Call) (e : Failure) (ch' : Channel), call.run p ch = .error e ch' ∧
      ch'.nextSequence ≠ ch.nextSequence) ∧
    ∃ (call : Call) (e : Failure) (ch' : Channel), call.run p ch = .error e ch' ∧
      ch'.crypto.map (·.received) ≠ ch.crypto.map (·.received) := by
  intro p ch
  refine ⟨⟨_, rfl, rfl⟩, ⟨_, _, _, run_refused _, by decide⟩, ?_⟩
  have hrun : (Call.receive emptyFrame.encode).run p ch =
      .error .sealedBody { ch with crypto := some (Duplex.freshContext .receiver).afterOpening } := by
    rw [Call.run, Steps.bind_apply, receive_empty]
  exact ⟨_, _, _, hrun, by decide⟩

end DirectShare.Channel
