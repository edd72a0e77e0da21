import Mathlib
import DirectShare.Proofs.Session.Announcements

/-!
# What is said, and in answer to what

A session says one thing after the other, each in answer to something that it is given. A script lists what
it may say: each line relates what is given to what is said. Frames enter a script by their header, and by
the body that they carry.

`Follows` and `ClosesWith` say that what was said is the start of a script, or breaks it off.
`Frame.HasHeader` and `Frame.Carries` relate bytes to a header and to the body that was written, and
`Frame.Bears` to the body that is read, either of which may be sealed. `Sender.announcement_of_sends` uses
them to say what a sender announces.
-/

namespace DirectShare

/-! ### Scripts -/

section Follows

variable {α β : Type}

/-- What was said is what a line of a script asks for. -/
def Fits (said : α × β) (line : α → β → Prop) : Prop := line said.1 said.2

/-- What was said so far is the start of a script. -/
def Follows (script : List (α → β → Prop)) (said : List (α × β)) : Prop :=
  ∃ n, List.Forall₂ Fits said (script.take n)

/-- What fits the next lines goes on with what was said. -/
lemma forall₂_fits_append {lines next : List (α → β → Prop)} {said : List (α × β)} (h : List.Forall₂ Fits said lines)
    {a : α} {intents : List β} (hnext : List.Forall₂ (fun i line => line a i) intents next) :
    List.Forall₂ Fits (said ++ intents.map fun i => (a, i)) (lines ++ next) :=
  List.rel_append h (List.forall₂_map_left_iff.2 hnext)

/-- What was said fits the start of every longer script. -/
lemma follows_of_isPrefix {script lines : List (α → β → Prop)} {said : List (α × β)}
    (h : List.Forall₂ Fits said lines) (hlines : lines <+: script) : Follows script said :=
  ⟨lines.length, List.prefix_iff_eq_take.1 hlines ▸ h⟩

/-- What follows a script follows every longer script. -/
lemma Follows.of_isPrefix {script lines : List (α → β → Prop)} {said : List (α × β)} (h : Follows lines said)
    (hlines : lines <+: script) : Follows script said := by
  obtain ⟨n, hfits⟩ := h
  exact follows_of_isPrefix hfits ((List.take_prefix n lines).trans hlines)

/-- What was said is a start of a script without its last line, and then the given thing. -/
def ClosesWith (script : List (α → β → Prop)) (said : List (α × β)) (b : β) : Prop :=
  ∃ front a, said = front ++ [(a, b)] ∧ Follows script.dropLast front

/-- What no line of a script asks for was not said. -/
lemma Follows.notMem {script : List (α → β → Prop)} {said : List (α × β)} (h : Follows script said)
    {a : α} {b : β} (hnone : ∀ line ∈ script, ¬line a b) : (a, b) ∉ said := by
  obtain ⟨n, hfits⟩ := h
  intro hmem
  obtain ⟨i, hi, heq⟩ := List.getElem_of_mem hmem
  have hline := hfits.get hi (hfits.length_eq ▸ hi)
  rw [List.get_eq_getElem, heq] at hline
  exact hnone _ (List.mem_of_mem_take (List.get_mem _ _)) hline

/-- What was said at a place is what the line at that place asks for. -/
lemma Follows.fits_getElem? {script : List (α → β → Prop)} {said : List (α × β)} (h : Follows script said)
    {i : Nat} {x : α × β} (hx : said[i]? = some x) : ∃ line, script[i]? = some line ∧ Fits x line := by
  obtain ⟨n, hfits⟩ := h
  obtain ⟨hi, rfl⟩ := List.getElem?_eq_some_iff.1 hx
  have hi' : i < (script.take n).length := hfits.length_eq ▸ hi
  refine ⟨(script.take n)[i], ?_, hfits.get hi hi'⟩
  rw [List.getElem_take, List.getElem?_eq_getElem]

/-- Where only one line asks for things of a kind, they are said in its place. -/
lemma Follows.eq_of_getElem? {p : β → Bool} {before after : List (α → β → Prop)} {line : α → β → Prop}
    {said : List (α × β)} (h : Follows (before ++ line :: after) said)
    (hnone : ∀ line' ∈ before ++ after, ∀ a b, line' a b → p b = false) {i : Nat} {x : α × β}
    (hx : said[i]? = some x) (hp : p x.2 = true) : i = before.length ∧ line x.1 x.2 := by
  obtain ⟨line', hline, hfits⟩ := h.fits_getElem? hx
  have hother : line' ∉ before ++ after := by
    intro hmem
    rw [hnone line' hmem x.1 x.2 hfits] at hp
    cases hp
  rw [List.mem_append, not_or] at hother
  -- The line in this place is none of the others, so the place is that of the line between them.
  obtain hlt | hge := lt_or_ge i before.length
  · rw [List.getElem?_append_left hlt] at hline
    exact absurd (List.mem_of_getElem? hline) hother.1
  · rw [List.getElem?_append_right hge, List.getElem?_cons] at hline
    split at hline
    · cases hline
      exact ⟨by omega, hfits⟩
    · exact absurd (List.mem_of_getElem? hline) hother.2

/-- Where only one line asks for things of a kind, at most one of them was said. -/
lemma Follows.countP_le_one {p : β → Bool} {before after : List (α → β → Prop)} {line : α → β → Prop}
    {said : List (α × β)} (h : Follows (before ++ line :: after) said)
    (hnone : ∀ line' ∈ before ++ after, ∀ a b, line' a b → p b = false) :
    said.countP (fun x => p x.2) ≤ 1 := by
  obtain ⟨n, hfits⟩ := h
  -- No line before the one in question counts, so they are taken off one by one.
  induction before generalizing n said with
  | nil =>
    cases n with
    | zero => simp_all
    | succ n =>
      obtain ⟨x, said, hx, hrest, rfl⟩ := List.forall₂_cons_right_iff.1 hfits
      have hafter : said.countP (fun x => p x.2) = 0 := by
        rw [List.countP_eq_zero]
        rintro ⟨a, b⟩ hmem hp
        have hrest : Follows after said := ⟨n, hrest⟩
        refine hrest.notMem (fun line' hline hfit => ?_) hmem
        rw [hnone line' hline a b hfit] at hp
        cases hp
      rw [List.countP_cons, hafter]
      split <;> omega
  | cons first before ih =>
    cases n with
    | zero => simp_all
    | succ n =>
      obtain ⟨x, said, hx, hrest, rfl⟩ := List.forall₂_cons_right_iff.1 hfits
      rw [List.countP_cons_of_neg (by simpa using hnone first (by simp) x.1 x.2 hx)]
      exact ih (fun line' hline => hnone line' (by simp_all)) n hrest

/-- What a script is closed with was said. -/
lemma ClosesWith.exists_mem {script : List (α → β → Prop)} {said : List (α × β)} {b : β}
    (h : ClosesWith script said b) : ∃ a, (a, b) ∈ said := by
  obtain ⟨front, a, rfl, -⟩ := h
  exact ⟨a, by simp⟩

/-- A script is closed with one thing only. -/
lemma ClosesWith.eq_of_mem {script : List (α → β → Prop)} {said : List (α × β)} {b : β}
    (h : ClosesWith script said b) {a : α} {b' : β} (hnone : ∀ line ∈ script.dropLast, ¬line a b')
    (hmem : (a, b') ∈ said) : b' = b := by
  obtain ⟨front, a', rfl, hfront⟩ := h
  obtain hbefore | hlast := List.mem_append.1 hmem
  · exact absurd hbefore (hfront.notMem hnone)
  · exact (Prod.mk.inj (List.mem_singleton.1 hlast)).2

end Follows

/-! ### Frames -/

namespace Frame

variable {p : Provider} {kind : Kind} {sequence : UInt32} {action : Action}

/-- The bytes are read as a frame with the given header. -/
def HasHeader (kind : Kind) (sequence : UInt32) (action : Action) (bytes : Bytes) : Prop :=
  ∃ payload, decode bytes = .ok ⟨kind, sequence, action, payload⟩

/-- The bytes are a frame with the given header and body, which may be sealed. -/
def Carries (p : Provider) (kind : Kind) (sequence : UInt32) (action : Action) (body : Json) (bytes : Bytes) :
    Prop :=
  bytes = encode ⟨kind, sequence, action, .json body⟩ ∨
    ∃ key nonce ciphertext,
      p.encrypt key nonce (Utf8.encode (String.ofList (headerChars kind sequence action)))
        (Utf8.encode body.render) = .ok ciphertext ∧
      bytes = encode ⟨kind, sequence, action, .sealed ciphertext⟩

/-- The bytes are read as a frame with the given header and body, which may be sealed. -/
def Bears (p : Provider) (kind : Kind) (sequence : UInt32) (action : Action) (body : Json) (bytes : Bytes) :
    Prop :=
  decode bytes = .ok ⟨kind, sequence, action, .json body⟩ ∨
    ∃ key nonce header ciphertext plaintext,
      decode bytes = .ok ⟨kind, sequence, action, .sealed ciphertext⟩ ∧
      p.decrypt key nonce header ciphertext = .ok plaintext ∧ Json.parseBytes plaintext = some body

/-- A frame with a body has its header. -/
lemma Carries.hasHeader {body : Json} {bytes : Bytes} (h : Carries p kind sequence action body bytes)
    (hbody : body.IsReadable Json.maxLevels) : HasHeader kind sequence action bytes := by
  obtain rfl | ⟨key, nonce, ciphertext, -, rfl⟩ := h
  · exact ⟨_, decode_encode hbody⟩
  · exact ⟨_, decode_encode_sealed kind sequence action ciphertext⟩

/-- The header of a frame is read in one way. -/
lemma HasHeader.unique {bytes : Bytes} {kind' : Kind} {sequence' : UInt32} {action' : Action}
    (h : HasHeader kind sequence action bytes) (h' : HasHeader kind' sequence' action' bytes) :
    kind = kind' ∧ sequence = sequence' ∧ action = action' := by
  obtain ⟨payload, hdecode⟩ := h
  obtain ⟨payload', hdecode'⟩ := h'
  rw [hdecode] at hdecode'
  cases hdecode'
  exact ⟨rfl, rfl, rfl⟩

end Frame

namespace Channel

variable {p : Provider} {kind : Frame.Kind} {sequence : UInt32} {action : Action} {body : Option Json}
  {payload : Frame.Payload} {bytes : Bytes} {b : Json} {ch ch' : Channel}

/-- Sealing a body uses no number. -/
lemma numbers_sealBody (h : sealBody p kind sequence action body ch = .ok payload ch') :
    ch'.nextSequence = ch.nextSequence ∧ ch'.pending = ch.pending ∧
      ch'.lastPeerSequence = ch.lastPeerSequence := by
  obtain ⟨-, -, rfl⟩ | ⟨-, -, -, rfl, -⟩ | ⟨-, -, -, -, -, -, -, -, -, -, -, rfl⟩ := sealBody_ok h <;>
    exact ⟨rfl, rfl, rfl⟩

/-- Opening a body uses no number. -/
lemma numbers_openBody {f : Frame} (h : openBody p f ch = .ok body ch') :
    ch'.nextSequence = ch.nextSequence ∧ ch'.pending = ch.pending ∧
      ch'.lastPeerSequence = ch.lastPeerSequence := by
  obtain ⟨-, -, rfl⟩ | ⟨-, -, -, rfl, -⟩ | ⟨-, -, -, -, -, -, -, -, -, -, -, rfl⟩ := openBody_ok h <;>
    exact ⟨rfl, rfl, rfl⟩

/-- A frame is made of the body that is sealed for it. -/
lemma carries_sealBody (h : sealBody p kind sequence action (some b) ch = .ok payload ch') :
    Frame.Carries p kind sequence action b (Frame.encode ⟨kind, sequence, action, payload⟩) := by
  obtain ⟨hnone, -⟩ | ⟨b', hb, rfl, -⟩ | ⟨b', c, key, ciphertext, hb, -, -, -, -, hencrypt, rfl, -⟩ :=
    sealBody_ok h
  · cases hnone
  · cases hb
    exact .inl rfl
  · cases hb
    exact .inr ⟨key, _, ciphertext, hencrypt, rfl⟩

/-- Sending an action makes a frame with the next number, and the action is awaited. -/
lemma carries_sendAction (h : sendAction p action (some b) ch = .ok bytes ch') :
    Frame.Carries p .action ch.nextSequence action b bytes ∧ ch'.nextSequence = ch.nextSequence + 1 ∧
      ch'.pending = some (ch.nextSequence, action) ∧ ch'.lastPeerSequence = ch.lastPeerSequence := by
  obtain ⟨payload, ch'', -, -, hseal, rfl, rfl⟩ := sendAction_ok h
  obtain ⟨hnext, -, hlast⟩ := numbers_sealBody hseal
  exact ⟨carries_sealBody hseal, hnext, rfl, hlast⟩

/-- Sending an acknowledgement makes a frame with the given number, and nothing is awaited on account of it. -/
lemma carries_sendAck (h : sendAck p sequence action (some b) ch = .ok bytes ch') :
    Frame.Carries p .ack sequence action b bytes ∧ ch'.nextSequence = ch.nextSequence ∧
      ch'.pending = ch.pending ∧ ch'.lastPeerSequence = ch.lastPeerSequence := by
  obtain ⟨payload, hseal, rfl⟩ := sendAck_ok h
  exact ⟨carries_sealBody hseal, numbers_sealBody hseal⟩

/-- Sending an acknowledgement without a body changes nothing. -/
lemma sendAck_none (h : sendAck p sequence action none ch = .ok bytes ch') :
    bytes = Frame.encode ⟨.ack, sequence, action, .empty⟩ ∧ ch' = ch := by
  cases h
  exact ⟨rfl, rfl⟩

/-- An action that is received has a number above all before. -/
lemma receive_action (h : receive p bytes ch = .ok (.action sequence action body) ch') :
    Frame.HasHeader .action sequence action bytes ∧ (∀ n, ch.lastPeerSequence = some n → n < sequence) ∧
      ch'.nextSequence = ch.nextSequence ∧ ch'.pending = ch.pending ∧ ch'.lastPeerSequence = some sequence := by
  obtain ⟨⟨kind, sequence', action', payload⟩, body', ch'', hdecode, hopen, hcase⟩ := receive_ok h
  obtain ⟨hnext, hpending, -⟩ := numbers_openBody hopen
  obtain ⟨-, -, hinbound, -⟩ | ⟨hkind, hlast, hinbound, rfl⟩ := hcase
  · cases hinbound
  · cases hkind
    cases hinbound
    exact ⟨⟨payload, hdecode⟩, hlast, hnext, hpending, rfl⟩

/-- The record that was read of an action that was received is that of the body which the frame bears. -/
lemma bears_of_readBody {α : Type} [Json.Record α] {record : α}
    (h : receive p bytes ch = .ok (.action sequence action body) ch') (hread : readBody action body = .ok record) :
    ∃ b, Frame.Bears p .action sequence action b bytes ∧ Json.Record.ofJson? b = some record := by
  obtain ⟨b, rfl, hrecord⟩ := readBody_ok hread
  refine ⟨b, ?_, hrecord⟩
  obtain ⟨hdecode, -⟩ | ⟨c, key, header, ciphertext, plaintext, -, -, hdecode, hdecrypt, hparse⟩ :=
    body_of_receive h
  · exact .inl hdecode
  · exact .inr ⟨key, _, header, ciphertext, plaintext, hdecode, hdecrypt, hparse⟩

/-- An acknowledgement that is received is the one awaited, and nothing is awaited afterwards. -/
lemma receive_awaited (h : receive p bytes ch = .ok (.ack action body) ch') :
    ∃ sequence, Frame.HasHeader .ack sequence action bytes ∧ ch.pending = some (sequence, action) ∧
      ch'.nextSequence = ch.nextSequence ∧ ch'.pending = none ∧ ch'.lastPeerSequence = ch.lastPeerSequence := by
  obtain ⟨⟨kind, sequence, action', payload⟩, body', ch'', hdecode, hopen, hcase⟩ := receive_ok h
  obtain ⟨hnext, -, hlast⟩ := numbers_openBody hopen
  obtain ⟨hkind, hpending, hinbound, rfl⟩ | ⟨-, -, hinbound, -⟩ := hcase
  · cases hkind
    cases hinbound
    exact ⟨sequence, ⟨payload, hdecode⟩, hpending, hnext, rfl, hlast⟩
  · cases hinbound

end Channel

namespace Sender

variable {env : Surroundings} {s : Sender} {table : TaskTable} {event : Event} {t : Turn} {bytes : Bytes}
  {sequence : UInt32}

/-- An announcement that a sender sends is that of its task. -/
theorem announcement_of_sends (hturn : Answers env s table event t) (hsend : .send bytes ∈ t.intents)
    (hheader : Frame.HasHeader .action sequence .sendRequest bytes) :
    ∃ j, s.job = some j ∧ t.session.job = some j ∧
      Frame.Carries env.provider .action sequence .sendRequest (Json.Record.toJson j.request) bytes := by
  have hother : ∀ {ch ch' : Channel} {n : UInt32},
      Channel.sendAck env.provider n .status none ch = .ok bytes ch' → False := by
    intro ch ch' n hack
    obtain ⟨rfl, -⟩ := Channel.sendAck_none hack
    obtain ⟨hkind, -⟩ := hheader.unique ⟨_, Frame.decode_encode_empty .ack n .status⟩
    cases hkind
  cases hturn with
  | offered hjoined hshare hoffer =>
    obtain rfl : bytes = _ := by simpa using hsend
    obtain ⟨hcarries, -⟩ := Channel.carries_sendAction hoffer
    obtain ⟨-, -, haction⟩ :=
      hheader.unique (hcarries.hasHeader ((VersionOffer.isReadable_toJson _).mono (by decide)))
    cases haction
  | announced hconnected hreceive hread hhere hthere hsettle hjob hannounce =>
    obtain rfl : bytes = _ := by simpa using hsend
    obtain ⟨hcarries, -⟩ := Channel.carries_sendAction hannounce
    obtain ⟨-, rfl, -⟩ := hheader.unique (hcarries.hasHeader (isReadable_announcement _))
    exact ⟨_, hjob, hjob, hcarries⟩
  | completed hstage hreceive hread hjob htask hack =>
    obtain rfl : bytes = _ := by simpa using hsend
    exact (hother hack).elim
  | reported hstage hreceive hread hjob htask hack =>
    obtain rfl : bytes = _ := by simpa [fail] using hsend
    exact (hother hack).elim
  | _ => simp [fail, giveUp] at hsend

/-- A readable announcement that a sender sends is that of its task. -/
lemma body_of_sends {body : Json} (hturn : Answers env s table event t) (hsend : .send bytes ∈ t.intents)
    (hdecode : Frame.decode bytes = .ok ⟨.action, sequence, .sendRequest, .json body⟩) :
    ∃ j, t.session.job = some j ∧ body = Json.Record.toJson j.request := by
  obtain ⟨j, -, hjob, rfl | ⟨key, nonce, ciphertext, -, rfl⟩⟩ := announcement_of_sends hturn hsend ⟨_, hdecode⟩
  · have hdecode' := Frame.decode_encode
      (f := ⟨.action, sequence, .sendRequest, .json (Json.Record.toJson j.request)⟩) (isReadable_announcement j.request)
    rw [hdecode] at hdecode'
    cases hdecode'
    exact ⟨j, hjob, rfl⟩
  · rw [Frame.decode_encode_sealed] at hdecode
    cases hdecode

end Sender

end DirectShare
