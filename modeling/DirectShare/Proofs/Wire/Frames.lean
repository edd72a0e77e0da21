import Mathlib
import DirectShare.Proofs.Json.Reading
import DirectShare.Proofs.Text.Base64
import DirectShare.Wire.Decode

/-!
# Reading written frames

A frame is read back from its bytes if its body is readable. So a header determines the kind, the
number and the action before it.

The text of a frame is cut into the parts that it was made of (`Frame.layout_chars`): its word, digits and
name hold no colon, and its payload stands behind a question mark. `Frame.decode_encode` reads each part back,
and `Frame.headerChars_injective` is the uniqueness of the cut.
-/

namespace DirectShare

namespace Frame

/-! ### The layout -/

/-- A run of characters of a class ends where another character comes. -/
lemma takeRun_append {p : Char → Bool} {cs : List Char} (hne : cs ≠ []) (hcs : ∀ c ∈ cs, p c = true)
    (rest : List Char) (hrest : ∀ c, rest.head? = some c → p c = false) : takeRun p (cs ++ rest) = some (cs, rest) := by
  have htake : (cs ++ rest).takeWhile p = cs := by
    rw [List.takeWhile_append_of_pos hcs]
    cases rest with
    | nil => simp
    | cons c rest => simp [hrest c rfl]
  have hdrop : (cs ++ rest).dropWhile p = rest := by
    rw [List.dropWhile_append_of_pos hcs]
    cases rest with
    | nil => rfl
    | cons c rest => simp [hrest c rfl]
  rw [takeRun, htake, hdrop, if_neg hne]

/-- The word of a kind is one word. -/
lemma isWord_kind (kind : Kind) : ∀ c ∈ kind.word.toList, Text.isWord c = true := by
  have h : kind.word.toList.all Text.isWord = true := by cases kind <;> decide +kernel
  exact List.all_eq_true.1 h

/-- The name of an action is one word. -/
lemma isWord_action (action : Action) : ∀ c ∈ action.name.toList, Text.isWord c = true := by
  have h : action.name.toList.all Text.isWord = true := by cases action <;> decide +kernel
  exact List.all_eq_true.1 h

/-- An ASCII digit is a decimal digit. -/
lemma isDecimalDigit_of_isDigit {c : Char} (h : c.isDigit = true) : Text.isDecimalDigit c = true := by
  obtain ⟨hlow, hhigh⟩ := Char.isDigit_iff_toNat.1 h
  have hmem : 48 ∈ Text.decimalZeros := by decide
  have hzero : ('0' : Char).toNat = 48 := rfl
  have hnine : ('9' : Char).toNat = 57 := rfl
  refine List.any_eq_true.2 ⟨48, hmem, ?_⟩
  simp only [Bool.and_eq_true, decide_eq_true_eq]
  omega

/-- A kind, digits and a name between colons are cut apart there. -/
lemma Layout.ofChars?_append {kind digits name rest payload : List Char} (hkind : kind ≠ [])
    (hkind' : ∀ c ∈ kind, Text.isWord c = true) (hdigits : digits ≠ [])
    (hdigits' : ∀ c ∈ digits, Text.isDecimalDigit c = true) (hname : name ≠ [])
    (hname' : ∀ c ∈ name, Text.isWord c = true) (hrest : ∀ c, rest.head? = some c → Text.isWord c = false)
    (hpayload : payloadPart rest = some payload) :
    Layout.ofChars? (kind ++ ':' :: (digits ++ ':' :: (name ++ rest))) = some ⟨kind, digits, name, payload⟩ := by
  have hcolon : Text.isWord ':' = false := by decide +kernel
  have hcolonDigit : Text.isDecimalDigit ':' = false := by decide +kernel
  have hfirst := takeRun_append hkind hkind' (':' :: (digits ++ ':' :: (name ++ rest))) (by simp [hcolon])
  have hsecond := takeRun_append hdigits hdigits' (':' :: (name ++ rest)) (by simp [hcolonDigit])
  have hthird := takeRun_append hname hname' rest hrest
  simp only [Layout.ofChars?, hfirst, hsecond, hthird, afterColon, hpayload, Option.bind_eq_bind,
    Option.bind_some, Option.pure_def]

/-- The layout of what a header and a payload are written as. -/
lemma layout_chars (kind : Kind) (sequence : UInt32) (action : Action) {rest payload : List Char}
    (hword : ∀ c, rest.head? = some c → Text.isWord c = false)
    (hpayload : payloadPart rest = some payload) :
    Layout.ofChars? (headerChars kind sequence action ++ rest) =
      some ⟨kind.word.toList, Nat.toDigits 10 sequence.toNat, action.name.toList, payload⟩ := by
  have hdigit : ∀ c ∈ Nat.toDigits 10 sequence.toNat, Text.isDecimalDigit c = true := fun c hc =>
    isDecimalDigit_of_isDigit (Nat.isDigit_of_mem_toDigits (by decide) (by decide) hc)
  simp only [headerChars, List.append_assoc, List.cons_append]
  exact Layout.ofChars?_append (by cases kind <;> decide) (isWord_kind kind) Nat.toDigits_ne_nil hdigit
    (by cases action <;> decide) (isWord_action action) hword hpayload

/-! ### The parts -/

/-- A kind is found by its word. -/
lemma ofWord?_word (kind : Kind) : Kind.ofWord? kind.word.toList = some kind := by
  cases kind <;> decide

/-- A number is read from its digits. -/
lemma sequence?_toDigits (n : UInt32) : sequence? (Nat.toDigits 10 n.toNat) = some n := by
  have hdigits : (Nat.toDigits 10 n.toNat).all Char.isDigit = true :=
    List.all_eq_true.2 fun c hc => Nat.isDigit_of_mem_toDigits (by decide) (by decide) hc
  have hlt : n.toNat < UInt32.size := n.toNat_lt
  rw [sequence?, Nat.ofDigitChars_ten_toDigits, if_pos ⟨hdigits, hlt⟩]
  simp

/-- A body in a frame is readable. -/
def Payload.IsReadable : Payload → Prop
  | .json body => body.IsReadable Json.maxLevels
  | _ => True

/-- A digit is no mark of sealed bytes. -/
lemma ne_mark_of_isDigit {c : Char} (h : c.isDigit = true) : c ≠ '!' := by
  rintro rfl
  cases h

/-- The digits of a number do not start with that mark. -/
lemma toDigits_head (n : Nat) : ∃ c cs, Nat.toDigits 10 n = c :: cs ∧ c ≠ '!' := by
  cases h : Nat.toDigits 10 n with
  | nil => exact absurd h Nat.toDigits_ne_nil
  | cons c cs =>
    have hdigit : c.isDigit = true :=
      Nat.isDigit_of_mem_toDigits (b := 10) (n := n) (by decide) (by decide) (by simp [h])
    exact ⟨c, cs, rfl, ne_mark_of_isDigit hdigit⟩

/-- A number that is laid out does not start with that mark if its digits do not. -/
lemma layout_head {digits : List Char} {c : Char} {cs : List Char} (h : digits = c :: cs) (hc : c ≠ '!')
    (e : Int) : ∃ d ds, Binary64.layout digits e = d :: ds ∧ d ≠ '!' := by
  subst h
  rw [Binary64.layout]
  split_ifs with hwhole hpoint hsmall
  · exact ⟨c, _, rfl, hc⟩
  · obtain ⟨k, hk⟩ : ∃ k, ((c :: cs).length + e).toNat = k + 1 := ⟨((c :: cs).length + e).toNat - 1, by omega⟩
    rw [hk]
    exact ⟨c, _, rfl, hc⟩
  · exact ⟨'0', _, rfl, by decide⟩
  all_goals exact ⟨c, _, rfl, hc⟩

/-- The text of a binary number does not start with that mark. -/
lemma text_head (x : Binary64) : ∃ c cs, x.text.toList = c :: cs ∧ c ≠ '!' := by
  rw [Binary64.text, String.toList_ofList]
  by_cases hx : x.negative = true
  · rw [if_pos hx]
    exact ⟨'-', _, rfl, by decide⟩
  rw [if_neg hx]
  split_ifs with hzero
  · exact ⟨'0', _, rfl, by decide⟩
  · obtain ⟨c, cs, hdigits, hc⟩ := toDigits_head x.shortest.1
    exact layout_head hdigits hc _

/-- The text of a value starts neither with nothing nor with the sign of a sealed body. -/
lemma chars_head (v : Json) : ∃ c cs, v.chars = c :: cs ∧ c ≠ '!' := by
  cases v with
  | null => exact ⟨_, _, rfl, by decide⟩
  | bool b => cases b <;> exact ⟨_, _, rfl, by decide⟩
  | string s => exact ⟨_, _, rfl, by decide⟩
  | array items => cases items <;> exact ⟨_, _, rfl, by decide⟩
  | object members => cases members <;> exact ⟨_, _, rfl, by decide⟩
  | number n =>
    cases n with
    | double x => exact text_head x
    | integer n =>
      cases n with
      | negSucc n => exact ⟨_, _, rfl, by decide⟩
      | ofNat n => exact toDigits_head n

/-- The characters of a payload after the question mark. -/
def Payload.part : Payload → List Char
  | .empty => []
  | .json body => body.chars
  | .sealed ciphertext => '!' :: Base64.letters ciphertext

/-- What follows the name of an action ends that word, and gives the written payload. -/
lemma payloadPart_chars (payload : Payload) :
    (∀ c, payload.chars.head? = some c → Text.isWord c = false) ∧
      payloadPart payload.chars = some payload.part := by
  have hmark : Text.isWord '?' = false := by decide +kernel
  cases payload with
  | empty => exact ⟨by simp [Payload.chars], rfl⟩
  | «sealed» ciphertext => exact ⟨by simp [Payload.chars, hmark], rfl⟩
  | json body => exact ⟨by simp [Payload.chars, hmark], rfl⟩

/-- The text of a body that is not sealed is read as JSON. -/
lemma ofChars_chars (body : Json) :
    Payload.ofChars body.chars =
      (Json.parse body.render).elim (.error .json) fun body => .ok (.json body) := by
  obtain ⟨c, cs, hcs, hc⟩ := chars_head body
  rw [Json.render, hcs, Payload.ofChars]
  · cases Json.parse (String.ofList (c :: cs)) <;> rfl
  · exact List.cons_ne_nil c cs
  · rintro cs' heq
    cases heq
    exact hc rfl

/-- A readable payload is read back from its text. -/
lemma ofChars_part {payload : Payload} (h : payload.IsReadable) :
    Payload.ofChars payload.part = .ok payload := by
  cases payload with
  | empty => rfl
  | «sealed» ciphertext => rw [Payload.part, Payload.ofChars, Base64.bytes?_letters]
  | json body =>
    rw [Payload.part, ofChars_chars, Json.parse_render h]
    rfl

/-! ### Frames -/

/-- The header of a written frame is read back, whatever its payload. -/
lemma parseChars_chars (f : Frame) :
    parseChars f.chars = (Payload.ofChars f.payload.part).map fun payload => { f with payload } := by
  -- The payload starts with a question mark, which ends the name of the action.
  obtain ⟨hword, hpart⟩ := payloadPart_chars f.payload
  rw [parseChars, chars, layout_chars f.kind f.sequence f.action hword hpart]
  simp [ofLayout, ofWord?_word, sequence?_toDigits, Action.ofName?_name]

/-- The bytes of a text are read as the text is. -/
lemma decode_utf8 (s : String) :
    decode (Utf8.encode s) = (parseChars s.toList).mapError fun fault => .frame fault s := by
  rw [decode, Utf8.decode_encode]
  simp only
  rw [parse]
  cases parseChars s.toList <;> rfl

/-- The bytes of a frame are read by the characters of its text. -/
lemma decode_encode_eq (f : Frame) :
    decode f.encode = (parseChars f.chars).mapError fun fault => .frame fault f.text := by
  rw [encode, decode_utf8, text, String.toList_ofList]

/-- A frame is read back from its bytes. -/
theorem decode_encode {f : Frame} (h : f.payload.IsReadable) : decode f.encode = .ok f := by
  rw [decode_encode_eq, parseChars_chars, ofChars_part h]
  rfl

/-- A frame without a body is read back. -/
@[simp] lemma decode_encode_empty (kind : Kind) (sequence : UInt32) (action : Action) :
    decode (encode ⟨kind, sequence, action, .empty⟩) = .ok ⟨kind, sequence, action, .empty⟩ :=
  decode_encode trivial

/-- A frame with a sealed body is read back. -/
@[simp] lemma decode_encode_sealed (kind : Kind) (sequence : UInt32) (action : Action)
    (ciphertext : Bytes) :
    decode (encode ⟨kind, sequence, action, .sealed ciphertext⟩) =
      .ok ⟨kind, sequence, action, .sealed ciphertext⟩ :=
  decode_encode trivial

/-- A header determines the kind, the number and the action. -/
theorem headerChars_injective {kind kind' : Kind} {sequence sequence' : UInt32} {action action' : Action}
    (h : headerChars kind sequence action = headerChars kind' sequence' action') :
    kind = kind' ∧ sequence = sequence' ∧ action = action' := by
  have hread := decode_encode (f := ⟨kind, sequence, action, .empty⟩) trivial
  have hread' := decode_encode (f := ⟨kind', sequence', action', .empty⟩) trivial
  simp only [encode, text, chars, h] at hread hread'
  rw [hread] at hread'
  cases hread'
  exact ⟨rfl, rfl, rfl⟩

/-- The bytes of a frame determine its kind, its number and its action, whatever its payload is. -/
lemma encode_injective_header {f g : Frame} (h : f.encode = g.encode) :
    f.kind = g.kind ∧ f.sequence = g.sequence ∧ f.action = g.action := by
  have hchars : f.chars = g.chars := String.ofList_inj.1 (Utf8.encode_injective h)
  obtain ⟨hword, hpart⟩ := payloadPart_chars f.payload
  obtain ⟨hword', hpart'⟩ := payloadPart_chars g.payload
  have hf := layout_chars f.kind f.sequence f.action hword hpart
  have hg := layout_chars g.kind g.sequence g.action hword' hpart'
  rw [← chars, hchars, chars, hg] at hf
  obtain ⟨hkind, hdigits, hname, -⟩ := Layout.mk.inj (Option.some.inj hf)
  refine headerChars_injective ?_
  rw [headerChars, headerChars, hkind, hdigits, hname]

end Frame

end DirectShare
