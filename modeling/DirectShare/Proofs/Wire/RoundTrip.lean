import Mathlib
import DirectShare.Proofs.Json.Canonical
import DirectShare.Proofs.Wire.Grammar

/-!
# Frames there and back

A frame is read back from its bytes. The other way round, the bytes of a frame may be written in many ways,
and writing the frame that was read brings them into one form.

`Frame.of_decode_encode` says that what is read of the bytes of a frame has its header and the shape of its
payload (`Frame.Payload.shape`). `Frame.isReadable_of_decode` says that a frame that was read can be read back
if its numbers are whole, since reading sorts members and bounds depth. `Frame.decode_inverts_encode` collects
what the two give on the whole format.
-/

namespace DirectShare.Frame

/-- What a payload can be made of. -/
inductive Payload.Shape where
  /-- Nothing. -/
  | empty
  /-- A readable body. -/
  | json
  /-- Sealed bytes. -/
  | sealed
deriving DecidableEq

/-- What a payload is made of. -/
def Payload.shape : Payload → Shape
  | .empty => .empty
  | .json _ => .json
  | .sealed _ => .sealed

/-- All numbers of a body are whole. -/
def Payload.IsWhole : Payload → Prop
  | .json body => body.IsWhole
  | _ => True

/-! ### Reading what was written -/

/-- A payload is read as nothing but a payload of its shape. -/
lemma shape_of_ofChars_part {payload read : Payload} (h : Payload.ofChars payload.part = .ok read) :
    read.shape = payload.shape := by
  cases payload with
  | empty =>
    cases h
    rfl
  | «sealed» ciphertext =>
    rw [Payload.part, Payload.ofChars, Base64.bytes?_letters] at h
    cases h
    rfl
  | json body =>
    rw [Payload.part, ofChars_chars] at h
    cases hparse : Json.parse body.render with
    | none =>
      rw [hparse] at h
      cases h
    | some body' =>
      rw [hparse] at h
      cases h
      rfl

/-- Whatever is read of the bytes of a frame has its header and the shape of its payload. -/
theorem of_decode_encode {f g : Frame} (h : decode f.encode = .ok g) :
    g.kind = f.kind ∧ g.sequence = f.sequence ∧ g.action = f.action ∧ g.payload.shape = f.payload.shape := by
  rw [decode_encode_eq, parseChars_chars] at h
  cases hpayload : Payload.ofChars f.payload.part with
  | error fault =>
    rw [hpayload] at h
    cases h
  | ok payload =>
    rw [hpayload] at h
    cases h
    exact ⟨rfl, rfl, rfl, shape_of_ofChars_part hpayload⟩

/-- Different readable frames have different bytes. -/
lemma eq_of_encode_eq {f g : Frame} (hf : f.payload.IsReadable) (hg : g.payload.IsReadable)
    (h : f.encode = g.encode) : f = g := by
  have hread := decode_encode hf
  rw [h, decode_encode hg] at hread
  exact (Except.ok.inj hread).symm

/-! ### Writing what was read -/

/-- A payload that is spelled is readable, if its numbers are whole. -/
lemma Payload.IsSpelledBy.isReadable {cs : List Char} {payload : Payload} (h : payload.IsSpelledBy cs)
    (hwhole : payload.IsWhole) : payload.IsReadable := by
  cases h with
  | json _ hparse => exact Json.isReadable_of_parse hparse hwhole
  | _ => trivial

/-- A frame that was read can be read back, if its numbers are whole. -/
theorem isReadable_of_decode {bytes : Bytes} {f : Frame} (h : decode bytes = .ok f)
    (hwhole : f.payload.IsWhole) : f.payload.IsReadable := by
  obtain ⟨_, _, _, -, -, hpayload, -⟩ := decode_eq_ok_iff.1 h
  exact hpayload.isReadable hwhole

/-- **Reading undoes writing, on the whole format.** A frame of any kind, number and action, with nothing, any
sealed bytes or any body of whole numbers and at most 127 levels, is read back from its bytes. So different
frames of this class have different bytes. Whatever is read of the bytes of any frame has its header and the
shape of its payload. And however bytes were written, of which a frame of this class is read, the same is read
of the bytes that this frame is written as. -/
theorem decode_inverts_encode :
    (∀ f : Frame, f.payload.IsReadable → decode f.encode = .ok f) ∧
    (∀ f g : Frame, f.payload.IsReadable → g.payload.IsReadable → f ≠ g → f.encode ≠ g.encode) ∧
    (∀ f g : Frame, decode f.encode = .ok g →
      g.kind = f.kind ∧ g.sequence = f.sequence ∧ g.action = f.action ∧ g.payload.shape = f.payload.shape) ∧
    (∀ (bytes : Bytes) (f : Frame), decode bytes = .ok f → f.payload.IsWhole → decode f.encode = .ok f) := by
  refine ⟨fun f hf => decode_encode hf, fun f g hf hg hne heq => hne (eq_of_encode_eq hf hg heq),
    fun f g h => of_decode_encode h, fun bytes f h hwhole => ?_⟩
  exact decode_encode (isReadable_of_decode h hwhole)

/-- A body with the signs of a frame in its names, the least and the greatest number. -/
theorem decode_inverts_encode_nested :
    let f : Frame :=
      { kind := .ack, sequence := 4294967295, action := .status
        payload := .json (.object [("!?:", .array [Json.ofInt (-9223372036854775808), .string "\n\"é"]),
          ("é", Json.ofNat 18446744073709551615)]) }
    f.payload.IsReadable ∧ decode f.encode = .ok f := by
  intro f
  have hf : f.payload.IsReadable := by
    refine .object (n := 126) (by decide +kernel) ?_
    simp only [List.mem_cons, List.not_mem_nil, or_false, forall_eq_or_imp, forall_eq]
    refine ⟨.array ?_, .ofNat (by decide)⟩
    simp only [List.mem_cons, List.not_mem_nil, or_false, forall_eq_or_imp, forall_eq]
    exact ⟨.ofInt (by decide) (by decide), .string _⟩
  exact ⟨hf, decode_inverts_encode.1 f hf⟩

/-- A name in other letters and zeros before the number are not written again. -/
example :
    (decode (Utf8.encode "ack:007:STATUS?!AAE=")).map encode = .ok (Utf8.encode "ack:7:status?!AAE=") := by
  rfl

end DirectShare.Frame
