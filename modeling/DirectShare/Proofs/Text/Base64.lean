import Mathlib
import DirectShare.Text.Base64
import DirectShare.Text.Blank

/-!
# Base64 there and back

Bytes are read back from their letters, and nothing else is read: padding that is missing and bits that are left
over are refused. So a text stands for at most one byte string, and a byte string is written in one way.

A letter stands for six bits and is given back by them (`Base64.letter_of_value?`), so four letters determine
three bytes and the other way round. `Base64.bytes?_eq_some_iff` goes through the letters in groups of four,
with the padded group last. `Base64.isBlank_of_mem_letters` says that no letter is white space.
-/

namespace DirectShare.Base64

/-! ### Reading what was written -/

/-- A letter stands for its number. -/
lemma value?_letter : ∀ n, n < 64 → value? (letter n) = some n := by
  decide

/-- No letter is the sign that fills a group up. -/
lemma letter_ne_pad {n : Nat} (h : n < 64) : letter n ≠ '=' := by
  intro heq
  have hvalue := value?_letter n h
  rw [heq] at hvalue
  cases hvalue

/-- A group of four letters is read as three bytes, whatever follows. -/
lemma bytes?_cons {n₁ n₂ n₃ n₄ : Nat} (h₁ : n₁ < 64) (h₂ : n₂ < 64) (h₃ : n₃ < 64) (h₄ : n₄ < 64)
    (rest : List Char) :
    bytes? (letter n₁ :: letter n₂ :: letter n₃ :: letter n₄ :: rest) =
      (bytes? rest).map fun tail =>
        byte (n₁ * 4 + n₂ / 16) :: byte (n₂ % 16 * 16 + n₃ / 4) :: byte (n₃ % 4 * 64 + n₄) :: tail := by
  rw [bytes?]
  · simp only [value?_letter _ h₁, value?_letter _ h₂, value?_letter _ h₃, value?_letter _ h₄]
    cases bytes? rest <;> rfl
  · intro _ hpad
    exact absurd hpad (letter_ne_pad h₄)
  · intro hpad
    exact absurd hpad (letter_ne_pad h₄)

/-- A byte is made of its own number. -/
lemma byte_of_eq {n : Nat} {a : UInt8} (h : n = a.toNat) : byte n = a := by
  rw [byte, h]
  exact UInt8.ofNat_toNat

/-- Bytes are read back from their letters. -/
lemma bytes?_letters (bs : Bytes) : bytes? (letters bs) = some bs := by
  fun_induction letters bs with
  | case1 a b c rest ih =>
    have ha := a.toNat_lt
    have hb := b.toNat_lt
    have hc := c.toNat_lt
    have ha' : byte (a.toNat / 4 * 4 + (a.toNat % 4 * 16 + b.toNat / 16) / 16) = a :=
      byte_of_eq (by omega)
    have hb' : byte ((a.toNat % 4 * 16 + b.toNat / 16) % 16 * 16
        + (b.toNat % 16 * 4 + c.toNat / 64) / 4) = b := byte_of_eq (by omega)
    have hc' : byte ((b.toNat % 16 * 4 + c.toNat / 64) % 4 * 64 + c.toNat % 64) = c :=
      byte_of_eq (by omega)
    -- What is cut from two neighbouring letters is put together again.
    rw [bytes?_cons (by omega) (by omega) (by omega) (by omega), ih, Option.map_some, ha', hb', hc']
  | case2 a b =>
    have ha := a.toNat_lt
    have hb := b.toNat_lt
    have ha' : byte (a.toNat / 4 * 4 + (a.toNat % 4 * 16 + b.toNat / 16) / 16) = a :=
      byte_of_eq (by omega)
    have hb' : byte ((a.toNat % 4 * 16 + b.toNat / 16) % 16 * 16 + b.toNat % 16 * 4 / 4) = b :=
      byte_of_eq (by omega)
    have hzero : b.toNat % 16 * 4 % 4 = 0 := by omega
    rw [bytes?, value?_letter _ (by omega), value?_letter _ (by omega), value?_letter _ (by omega)]
    · simp only [Option.bind_eq_bind, Option.bind_some, if_pos hzero, ha', hb']
    · exact letter_ne_pad (by omega)
  | case3 a =>
    have ha := a.toNat_lt
    have ha' : byte (a.toNat / 4 * 4 + a.toNat % 4 * 16 / 16) = a := byte_of_eq (by omega)
    have hzero : a.toNat % 4 * 16 % 16 = 0 := by omega
    rw [bytes?, value?_letter _ (by omega), value?_letter _ (by omega)]
    simp only [Option.bind_eq_bind, Option.bind_some, if_pos hzero, ha']
  | case4 => rfl

/-- Bytes are read back from their text. -/
lemma decode_encode (bs : Bytes) : decode (encode bs) = some bs := by
  rw [decode, encode, String.toList_ofList]
  exact bytes?_letters bs

/-! ### Writing what was read -/

/-- What stands for a number is the letter of that number. -/
lemma letter_of_value? {c : Char} {n : Nat} (h : value? c = some n) : n < 64 ∧ letter n = c := by
  have hchar : ∀ m, m = c.toNat → Char.ofNat m = c := fun m hm => by rw [hm, Char.ofNat_toNat]
  have hbound : ∀ a b : Char, a ≤ c ∧ c ≤ b → a.toNat ≤ c.toNat ∧ c.toNat ≤ b.toNat := fun a b h =>
    ⟨UInt32.le_iff_toNat_le.1 h.1, UInt32.le_iff_toNat_le.1 h.2⟩
  rw [value?] at h
  split_ifs at h with hupper hlower hdigit hplus hslash
  · obtain ⟨hlow, hhigh⟩ := hbound _ _ hupper
    cases h
    simp only [Char.reduceToNat] at hlow hhigh
    rw [letter, if_pos (by omega)]
    exact ⟨by omega, hchar _ (by omega)⟩
  · obtain ⟨hlow, hhigh⟩ := hbound _ _ hlower
    cases h
    simp only [Char.reduceToNat] at hlow hhigh
    rw [letter, if_neg (by omega), if_pos (by omega)]
    exact ⟨by omega, hchar _ (by omega)⟩
  · obtain ⟨hlow, hhigh⟩ := hbound _ _ hdigit
    cases h
    simp only [Char.reduceToNat] at hlow hhigh
    rw [letter, if_neg (by omega), if_neg (by omega), if_pos (by omega)]
    exact ⟨by omega, hchar _ (by omega)⟩
  · cases h
    exact ⟨by decide, hplus.symm⟩
  · cases h
    exact ⟨by decide, hslash.symm⟩

/-- A number that fits into a byte is kept there. -/
lemma toNat_byte {n : Nat} (h : n < 256) : (byte n).toNat = n := by
  rw [byte, UInt8.toNat_ofNat', Nat.mod_eq_of_lt h]

/-- Letters that are read are the letters for what was read. -/
lemma letters_of_bytes? {cs : List Char} {bs : Bytes} (h : bytes? cs = some bs) : letters bs = cs := by
  fun_induction bytes? cs generalizing bs with
  | case1 =>
    cases h
    rfl
  | case2 w x =>
    simp only [Option.bind_eq_bind, Option.bind_eq_some_iff, Option.ite_none_right_eq_some, Option.some.injEq] at h
    obtain ⟨n₁, h₁, n₂, h₂, hzero, rfl⟩ := h
    obtain ⟨hn₁, rfl⟩ := letter_of_value? h₁
    obtain ⟨hn₂, rfl⟩ := letter_of_value? h₂
    have hfirst : (n₁ * 4 + n₂ / 16) / 4 = n₁ := by omega
    have hsecond : (n₁ * 4 + n₂ / 16) % 4 * 16 = n₂ := by omega
    rw [letters, toNat_byte (by omega), hfirst, hsecond]
  | case3 w x y hy =>
    simp only [Option.bind_eq_bind, Option.bind_eq_some_iff, Option.ite_none_right_eq_some, Option.some.injEq] at h
    obtain ⟨n₁, h₁, n₂, h₂, n₃, h₃, hzero, rfl⟩ := h
    obtain ⟨hn₁, rfl⟩ := letter_of_value? h₁
    obtain ⟨hn₂, rfl⟩ := letter_of_value? h₂
    obtain ⟨hn₃, rfl⟩ := letter_of_value? h₃
    have hfirst : (n₁ * 4 + n₂ / 16) / 4 = n₁ := by omega
    have hsecond : (n₁ * 4 + n₂ / 16) % 4 * 16 + (n₂ % 16 * 16 + n₃ / 4) / 16 = n₂ := by omega
    have hthird : (n₂ % 16 * 16 + n₃ / 4) % 16 * 4 = n₃ := by omega
    rw [letters, toNat_byte (by omega), toNat_byte (by omega), hfirst, hsecond, hthird]
  | case4 w x y z rest _ _ ih =>
    simp only [Option.bind_eq_bind, Option.bind_eq_some_iff, Option.some.injEq] at h
    obtain ⟨n₁, h₁, n₂, h₂, n₃, h₃, n₄, h₄, tail, htail, rfl⟩ := h
    obtain ⟨hn₁, rfl⟩ := letter_of_value? h₁
    obtain ⟨hn₂, rfl⟩ := letter_of_value? h₂
    obtain ⟨hn₃, rfl⟩ := letter_of_value? h₃
    obtain ⟨hn₄, rfl⟩ := letter_of_value? h₄
    have hfirst : (n₁ * 4 + n₂ / 16) / 4 = n₁ := by omega
    have hsecond : (n₁ * 4 + n₂ / 16) % 4 * 16 + (n₂ % 16 * 16 + n₃ / 4) / 16 = n₂ := by omega
    have hthird : (n₂ % 16 * 16 + n₃ / 4) % 16 * 4 + (n₃ % 4 * 64 + n₄) / 64 = n₃ := by omega
    have hfourth : (n₃ % 4 * 64 + n₄) % 64 = n₄ := by omega
    rw [letters, toNat_byte (by omega), toNat_byte (by omega), toNat_byte (by omega), hfirst, hsecond, hthird,
      hfourth, ih htail]
  | case5 => cases h

/-- Letters are read as bytes exactly if they are the letters for them. -/
theorem bytes?_eq_some_iff {cs : List Char} {bs : Bytes} : bytes? cs = some bs ↔ cs = letters bs :=
  ⟨fun h => (letters_of_bytes? h).symm, fun h => h ▸ bytes?_letters bs⟩

/-- A text is read as bytes exactly if it is the text of them. -/
lemma decode_eq_some_iff {s : String} {bs : Bytes} : decode s = some bs ↔ s = encode bs := by
  rw [decode, encode, bytes?_eq_some_iff, ← String.toList_inj, String.toList_ofList]

/-- Different bytes have different texts. -/
lemma encode_injective {bs bs' : Bytes} (h : encode bs = encode bs') : bs = bs' :=
  Option.some.inj ((decode_encode bs).symm.trans (decode_eq_some_iff.2 h))

/-! ### White space -/

/-- No letter is white space. -/
lemma isBlank_letter : ∀ n, n < 64 → Text.isBlank (letter n) = false := by
  decide

/-- The letters for bytes are no white space. -/
theorem isBlank_of_mem_letters {bs : Bytes} {c : Char} (h : c ∈ letters bs) : Text.isBlank c = false := by
  fun_induction letters bs with
  | case1 a b c' rest ih =>
    have ha := a.toNat_lt
    have hb := b.toNat_lt
    have hc := c'.toNat_lt
    simp only [List.mem_cons] at h
    obtain rfl | rfl | rfl | rfl | h := h
    · exact isBlank_letter _ (by omega)
    · exact isBlank_letter _ (by omega)
    · exact isBlank_letter _ (by omega)
    · exact isBlank_letter _ (by omega)
    · exact ih h
  | case2 a b =>
    have ha := a.toNat_lt
    have hb := b.toNat_lt
    simp only [List.mem_cons, List.not_mem_nil, or_false] at h
    obtain rfl | rfl | rfl | rfl := h
    · exact isBlank_letter _ (by omega)
    · exact isBlank_letter _ (by omega)
    · exact isBlank_letter _ (by omega)
    · rfl
  | case3 a =>
    have ha := a.toNat_lt
    simp only [List.mem_cons, List.not_mem_nil, or_false] at h
    obtain rfl | rfl | rfl | rfl := h
    · exact isBlank_letter _ (by omega)
    · exact isBlank_letter _ (by omega)
    · rfl
    · rfl
  | case4 => cases h

end DirectShare.Base64
