import Mathlib
import DirectShare.Proofs.Wire.Frames

/-!
# The grammar of frames

A frame may be written in several ways: with zeros before its number, with the letters of its name in either
case, with a question mark before nothing, and with a body in any JSON text. What is read as a frame is exactly
what is written in one of these ways. All other bytes are refused as malformed.

The parts are spelled as `Frame.SpellsNumber`, `Action.IsSpelledBy` and `Frame.Payload.IsSpelledBy` say, and
`Frame.IsSpelledBy` puts them together. `Frame.decode_eq_ok_iff` proves both directions part by part.
`Frame.reads_what_is_spelled` adds that all other bytes are refused as malformed (`DecodeError.IsMalformed`).
-/

namespace DirectShare

/-- Bytes were refused for what they are, and not for when they came. -/
def DecodeError.IsMalformed (e : DecodeError) : Prop := ∃ detail, e.message = "malformed message: " ++ detail

/-- What is wrong with the text of a frame makes it malformed. -/
lemma DecodeError.isMalformed_frame (fault : Frame.Fault) (text : String) : (frame fault text).IsMalformed := by
  refine ⟨fault.words ++ (": " ++ Text.quote text), ?_⟩
  show "malformed message: " ++ fault.words ++ ": " ++ Text.quote text = _
  rw [String.append_assoc, String.append_assoc]

/-- An unexpected acknowledgement is not malformed. -/
lemma DecodeError.not_isMalformed_unexpectedAck (sequence : UInt32) (action : Action) :
    ¬(unexpectedAck sequence action).IsMalformed := by
  rintro ⟨detail, h⟩
  have hmessage : (unexpectedAck sequence action).message = "unexpected " ++
      (action.name ++ (" ack #" ++ (sequence.toNat.repr ++ ": no matching action was sent"))) := by
    show "unexpected " ++ action.name ++ " ack #" ++ sequence.toNat.repr ++ _ = _
    simp only [String.append_assoc]
  have hfirst := congrArg (fun s : String => s.toList.head?) (hmessage.symm.trans h)
  simp at hfirst

/-- The characters are the name of an action, with ASCII letters of either case. -/
def Action.IsSpelledBy (a : Action) (cs : List Char) : Prop := cs.map Char.toLower = a.name.toList.map Char.toLower

namespace Frame

/-- Digits that stand for a number, at least one of them, with any zeros in front. -/
structure SpellsNumber (digits : List Char) (n : UInt32) : Prop where
  nonempty : digits ≠ []
  plain : ∀ c ∈ digits, c.isDigit = true
  value : Nat.ofDigitChars 10 digits 0 = n.toNat

/-- What may stand after the name of an action, up to the end of the text. -/
inductive Payload.IsSpelledBy : Payload → List Char → Prop
  | missing : IsSpelledBy .empty []
  | empty : IsSpelledBy .empty ['?']
  | sealed (ciphertext : Bytes) : IsSpelledBy (.sealed ciphertext) ('?' :: '!' :: Base64.letters ciphertext)
  | json {cs : List Char} {body : Json} : cs.head? ≠ some '!' → Json.parse (String.ofList cs) = some body →
      IsSpelledBy (.json body) ('?' :: cs)

/-- The bytes are the UTF-8 of a text that spells the frame: its kind, a number and a name between colons, and a
payload. -/
def IsSpelledBy (f : Frame) (bytes : Bytes) : Prop :=
  ∃ digits name rest, SpellsNumber digits f.sequence ∧ f.action.IsSpelledBy name ∧ f.payload.IsSpelledBy rest ∧
    bytes = Utf8.encode (String.ofList (f.kind.word.toList ++ ':' :: (digits ++ ':' :: (name ++ rest))))

/-! ### The layout -/

/-- A run of characters is not empty and stands in front. -/
lemma takeRun_eq_some {p : Char → Bool} {cs run rest : List Char} (h : takeRun p cs = some (run, rest)) :
    run ≠ [] ∧ cs = run ++ rest := by
  rw [takeRun] at h
  split_ifs at h with hnil
  cases h
  exact ⟨hnil, (List.takeWhile_append_dropWhile).symm⟩

/-- What is read after a colon stands behind one. -/
lemma afterColon_eq_some {cs rest : List Char} (h : afterColon cs = some rest) : cs = ':' :: rest := by
  rw [afterColon.eq_def] at h
  split at h
  · cases h
    rfl
  · cases h

/-- A text with a layout is made of the parts of it. -/
lemma Layout.eq_append_of_ofChars? {cs : List Char} {l : Layout} (h : Layout.ofChars? cs = some l) :
    l.digits ≠ [] ∧ ∃ rest, payloadPart rest = some l.payload ∧
      cs = l.kind ++ ':' :: (l.digits ++ ':' :: (l.name ++ rest)) := by
  simp only [Layout.ofChars?, Option.bind_eq_bind, Option.bind_eq_some_iff, Option.pure_def, Option.some.injEq,
    Prod.exists] at h
  obtain ⟨kind, cs₁, hkind, cs₂, hcolon, digits, cs₃, hdigits, cs₄, hcolon', name, rest, hname, payload, hpayload,
    rfl⟩ := h
  obtain ⟨-, rfl⟩ := takeRun_eq_some hkind
  obtain rfl := afterColon_eq_some hcolon
  obtain ⟨hne, rfl⟩ := takeRun_eq_some hdigits
  obtain rfl := afterColon_eq_some hcolon'
  obtain ⟨-, rfl⟩ := takeRun_eq_some hname
  exact ⟨hne, rest, hpayload, rfl⟩

/-! ### The parts -/

/-- A kind is spelled in one way only. -/
lemma ofWord?_eq_some_iff {cs : List Char} {kind : Kind} : Kind.ofWord? cs = some kind ↔ cs = kind.word.toList := by
  constructor
  · intro h
    rw [Kind.ofWord?] at h
    split_ifs at h with haction hack
    · cases h
      exact haction
    · cases h
      exact hack
  · rintro rfl
    exact ofWord?_word kind

/-- Digits are read as a number exactly if they spell it. -/
lemma sequence?_eq_some_iff {digits : List Char} (hne : digits ≠ []) {n : UInt32} :
    sequence? digits = some n ↔ SpellsNumber digits n := by
  rw [sequence?]
  constructor
  · intro h
    split_ifs at h with hdigits
    cases h
    exact ⟨hne, List.all_eq_true.1 hdigits.1, (UInt32.toNat_ofNat_of_lt hdigits.2).symm⟩
  · rintro ⟨-, hplain, hvalue⟩
    have hlt : n.toNat < UInt32.size := n.toNat_lt
    rw [hvalue, if_pos ⟨List.all_eq_true.2 hplain, hlt⟩, UInt32.ofNat_toNat]

/-- A name is read as an action exactly if it spells it. -/
lemma ofName?_eq_some_iff {cs : List Char} {a : Action} : Action.ofName? cs = some a ↔ a.IsSpelledBy cs := by
  constructor
  · intro h
    have hfold := List.find?_some h
    simp only [decide_eq_true_eq] at hfold
    exact hfold.symm
  · intro h
    have hfold : Action.foldCase cs = Action.foldCase a.name.toList := h
    rw [← Action.ofName?_name a, Action.ofName?, Action.ofName?, hfold]

/-- Whatever stands for a payload is cut off at the question mark and read. -/
lemma isSpelledBy_iff {payload : Payload} {rest : List Char} :
    payload.IsSpelledBy rest ↔ ∃ cs, payloadPart rest = some cs ∧ Payload.ofChars cs = .ok payload := by
  have hempty : Json.parse (String.ofList []) = none := by decide +kernel
  constructor
  · intro h
    cases h with
    | missing => exact ⟨[], rfl, rfl⟩
    | empty => exact ⟨[], rfl, rfl⟩
    | «sealed» ciphertext => exact ⟨_, rfl, by rw [Payload.ofChars, Base64.bytes?_letters]⟩
    | @json cs body hmark hparse =>
      refine ⟨cs, rfl, ?_⟩
      rw [Payload.ofChars.eq_def]
      split
      · rw [hempty] at hparse
        cases hparse
      · exact absurd rfl hmark
      · rw [hparse]
  · rintro ⟨cs, hcs, h⟩
    rw [payloadPart.eq_def] at hcs
    rw [Payload.ofChars.eq_def] at h
    split at hcs
    · cases hcs
      cases h
      exact .missing
    · cases hcs
      split at h
      · cases h
        exact .empty
      · split at h
        · next hbytes =>
          cases h
          rw [Base64.bytes?_eq_some_iff.1 hbytes]
          exact .sealed _
        · cases h
      · next hmark =>
        split at h
        · next hparse =>
          cases h
          refine .json (fun hhead => ?_) hparse
          obtain ⟨cs', rfl⟩ := List.head?_eq_some_iff.1 hhead
          exact hmark cs' rfl
        · cases h
    · cases hcs

/-! ### The characters of a name -/

/-- Letters stand in words. -/
lemma isWord_of_isAlpha {c : Char} (h : c.isAlpha = true) : Text.isWord c = true := by
  have hletters : ∀ n < 123, 65 ≤ n ∧ n ≤ 90 ∨ 97 ≤ n ∧ n ≤ 122 → Text.inRanges Text.wordRanges n = true := by
    decide +kernel
  simp only [Char.isAlpha, Char.isUpper, Char.isLower, Bool.or_eq_true, Bool.and_eq_true, decide_eq_true_eq,
    ge_iff_le, UInt32.le_iff_toNat_le] at h
  change 65 ≤ c.toNat ∧ c.toNat ≤ 90 ∨ 97 ≤ c.toNat ∧ c.toNat ≤ 122 at h
  exact hletters c.toNat (by omega) h

/-- A character is a letter if it is one in lower case. -/
lemma isAlpha_of_isLower_toLower {c : Char} (h : c.toLower.isLower = true) : c.isAlpha = true := by
  rw [Char.isAlpha, Bool.or_eq_true]
  rw [Char.toLower] at h
  split_ifs at h with hupper
  · left
    simpa [Char.isUpper] using hupper
  · exact .inr h

/-- However the name of an action is spelled, it is a word. -/
lemma isWord_of_isSpelledBy {a : Action} {cs : List Char} (h : a.IsSpelledBy cs) :
    cs ≠ [] ∧ ∀ c ∈ cs, Text.isWord c = true := by
  have hname : (a.name.toList.map Char.toLower).all Char.isLower = true := by cases a <;> decide +kernel
  constructor
  · rintro rfl
    have hnil : a.name.toList.map Char.toLower = [] := h.symm
    cases a <;> cases hnil
  · intro c hc
    have hmem : c.toLower ∈ a.name.toList.map Char.toLower := h ▸ List.mem_map_of_mem hc
    exact isWord_of_isAlpha (isAlpha_of_isLower_toLower (List.all_eq_true.1 hname _ hmem))

/-- What is read as a payload does not continue the word before it. -/
lemma head?_of_payloadPart {rest cs : List Char} (h : payloadPart rest = some cs) :
    ∀ c, rest.head? = some c → Text.isWord c = false := by
  have hmark : Text.isWord '?' = false := by decide +kernel
  rw [payloadPart.eq_def] at h
  split at h
  · simp
  · simp [hmark]
  · cases h

/-! ### Frames -/

/-- The parts of a frame are read one by one. -/
lemma ofLayout_eq_ok_iff {l : Layout} {f : Frame} :
    ofLayout l = .ok f ↔ Kind.ofWord? l.kind = some f.kind ∧ sequence? l.digits = some f.sequence ∧
      Action.ofName? l.name = some f.action ∧ Payload.ofChars l.payload = .ok f.payload := by
  obtain ⟨kind, sequence, action, payload⟩ := f
  rw [ofLayout]
  cases Kind.ofWord? l.kind with
  | none => simp
  | some kind =>
    cases sequence? l.digits with
    | none => simp
    | some sequence =>
      cases Action.ofName? l.name with
      | none => simp
      | some action =>
        cases Payload.ofChars l.payload with
        | error fault => simp [Except.map]
        | ok payload => simp [Except.map]

/-- Characters are read as a frame exactly if its parts are spelled in them, one after the other. -/
lemma parseChars_eq_ok_iff {cs : List Char} {f : Frame} :
    parseChars cs = .ok f ↔ ∃ digits name rest, SpellsNumber digits f.sequence ∧ f.action.IsSpelledBy name ∧
      f.payload.IsSpelledBy rest ∧ cs = f.kind.word.toList ++ ':' :: (digits ++ ':' :: (name ++ rest)) := by
  constructor
  · intro h
    rw [parseChars] at h
    split at h
    · cases h
    next l hl =>
    obtain ⟨hne, rest, hrest, rfl⟩ := l.eq_append_of_ofChars? hl
    obtain ⟨hkind, hsequence, haction, hpayload⟩ := ofLayout_eq_ok_iff.1 h
    rw [ofWord?_eq_some_iff.1 hkind]
    exact ⟨l.digits, l.name, rest, (sequence?_eq_some_iff hne).1 hsequence, ofName?_eq_some_iff.1 haction,
      isSpelledBy_iff.2 ⟨l.payload, hrest, hpayload⟩, rfl⟩
  · rintro ⟨digits, name, rest, hdigits, hname, hrest, rfl⟩
    obtain ⟨payload, hpart, hpayload⟩ := isSpelledBy_iff.1 hrest
    obtain ⟨hne, hword⟩ := isWord_of_isSpelledBy hname
    have hdecimal : ∀ c ∈ digits, Text.isDecimalDigit c = true := fun c hc =>
      isDecimalDigit_of_isDigit (hdigits.plain c hc)
    -- each run of characters ends where the next part starts, the name at the question mark or the end
    rw [parseChars, Layout.ofChars?_append (by cases f.kind <;> decide) (isWord_kind f.kind) hdigits.nonempty
      hdecimal hne hword (head?_of_payloadPart hpart) hpart]
    exact ofLayout_eq_ok_iff.2 ⟨ofWord?_word f.kind, (sequence?_eq_some_iff hdigits.nonempty).2 hdigits,
      ofName?_eq_some_iff.2 hname, hpayload⟩

/-- A frame is read exactly from the bytes that spell it. -/
theorem decode_eq_ok_iff {bytes : Bytes} {f : Frame} : decode bytes = .ok f ↔ f.IsSpelledBy bytes := by
  constructor
  · intro h
    obtain ⟨s, hs⟩ : ∃ s, Utf8.decode bytes = some s := by
      rw [decode] at h
      split at h
      · cases h
      · next s hs => exact ⟨s, hs⟩
    obtain rfl := Utf8.decode_eq_some_iff.1 hs
    have hparse : parseChars s.toList = .ok f := by
      rw [decode_utf8] at h
      cases hparse : parseChars s.toList with
      | error fault =>
        rw [hparse] at h
        cases h
      | ok g =>
        rw [hparse] at h
        cases h
        rfl
    obtain ⟨digits, name, rest, hdigits, hname, hrest, hcs⟩ := parseChars_eq_ok_iff.1 hparse
    exact ⟨digits, name, rest, hdigits, hname, hrest, by rw [← hcs, String.ofList_toList]⟩
  · rintro ⟨digits, name, rest, hdigits, hname, hrest, rfl⟩
    rw [decode_utf8, String.toList_ofList, parseChars_eq_ok_iff.2 ⟨digits, name, rest, hdigits, hname, hrest, rfl⟩]
    rfl

/-- Bytes that are refused are malformed, whatever is wrong with them. -/
lemma isMalformed_of_decode {bytes : Bytes} {e : DecodeError} (h : decode bytes = .error e) : e.IsMalformed := by
  rw [decode] at h
  split at h
  · cases h
    exact ⟨"frame is not valid UTF-8", rfl⟩
  · rw [parse] at h
    split at h
    · cases h
    · cases h
      exact DecodeError.isMalformed_frame _ _

/-- **Reading accepts exactly the grammar.** A frame is read from the bytes that spell it and from no others, and
bytes that spell no frame are refused as malformed. An acknowledgement is never refused for having come unasked:
that is not for the reader to see. -/
theorem reads_what_is_spelled (bytes : Bytes) :
    (∀ f, decode bytes = .ok f ↔ f.IsSpelledBy bytes) ∧
    ((∀ f : Frame, ¬f.IsSpelledBy bytes) ↔ ∃ e, decode bytes = .error e ∧ e.IsMalformed) ∧
    ∀ sequence action, decode bytes ≠ .error (.unexpectedAck sequence action) := by
  refine ⟨fun f => decode_eq_ok_iff, ⟨fun h => ?_, ?_⟩, fun sequence action h => ?_⟩
  · cases hdecode : decode bytes with
    | ok f => exact absurd (decode_eq_ok_iff.1 hdecode) (h f)
    | error e => exact ⟨e, rfl, isMalformed_of_decode hdecode⟩
  · rintro ⟨e, hdecode, -⟩ f hf
    rw [decode_eq_ok_iff.2 hf] at hdecode
    cases hdecode
  · exact DecodeError.not_isMalformed_unexpectedAck sequence action (isMalformed_of_decode h)

example : parse "ack:007:STATUS?" = .ok ⟨.ack, 7, .status, .empty⟩ := by rfl

-- A decimal digit of another script has its place in the layout and stands for no number.
example : parse "action:٣:status" = .error (.frame .sequence "action:٣:status") := by rfl

end Frame

end DirectShare
