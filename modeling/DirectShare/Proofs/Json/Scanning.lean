import Mathlib
import DirectShare.Json.Parser

/-!
# Scanning written values

The text of a value whose numbers are whole is cut into exactly the tokens that were written. A
number needs a word of care: its last digit must not run into what follows it.

`Json.tokens` are the tokens that are written for a value. `Json.scan_chars` scans its text, by induction on
the value: each token is taken from the front, whatever follows it, except that a number must be followed by
something that continues no number.
-/

namespace DirectShare.Json

/-- All numbers of a value are whole and fit 64 bits, signed or unsigned. -/
def IsWhole : Json → Prop
  | .number (.integer n) => -0x8000000000000000 ≤ n ∧ n < 0x10000000000000000
  | .number (.double _) => False
  | .array items => itemsAreWhole items
  | .object members => membersAreWhole members
  | _ => True
where
  /-- All numbers of the items are whole. -/
  itemsAreWhole : List Json → Prop
    | [] => True
    | item :: rest => item.IsWhole ∧ itemsAreWhole rest
  /-- All numbers of the members are whole. -/
  membersAreWhole : List (String × Json) → Prop
    | [] => True
    | (_, value) :: rest => value.IsWhole ∧ membersAreWhole rest

/-- The tokens of the text of a value. -/
def tokens : Json → List Token
  | .null => [.null]
  | .bool b => [.bool b]
  | .number n => [.number (some n)]
  | .string s => [.string (some s)]
  | .array [] => [.openArray, .closeArray]
  | .array (item :: rest) => .openArray :: (item.tokens ++ moreItems rest)
  | .object [] => [.openObject, .closeObject]
  | .object ((name, value) :: rest) =>
    .openObject :: .string (some name) :: .colon :: (value.tokens ++ moreMembers rest)
where
  /-- The tokens after the first item of an array. -/
  moreItems : List Json → List Token
    | [] => [.closeArray]
    | item :: rest => .comma :: (item.tokens ++ moreItems rest)
  /-- The tokens after the first member of an object. -/
  moreMembers : List (String × Json) → List Token
    | [] => [.closeObject]
    | (name, value) :: rest =>
      .comma :: .string (some name) :: .colon :: (value.tokens ++ moreMembers rest)

namespace Token

/-- Where no blank stands, scanning takes one token and goes on behind it. -/
lemma scan_of_scanOne {c : Char} {cs rest : Input} {t : Token} (hb : isBlank c = false)
    (h : scanOne c cs = some (t, rest)) : scan (some c :: cs) = (scan rest).map (t :: ·) := by
  rw [scan, if_neg (by simp [hb])]
  split
  · next h' => rw [h] at h'; contradiction
  · next h' =>
    rw [h] at h'
    cases h'
    rfl

/-! ### Numbers -/

/-- A text does not go on with something that belongs to a number before it. -/
def EndsNumber (cs : Input) : Prop :=
  ∀ c rest, cs = some c :: rest → c.isDigit = false ∧ c ≠ '.' ∧ c ≠ 'e' ∧ c ≠ 'E'

/-- A number may end with the text. -/
lemma endsNumber_nil : EndsNumber [] := by
  intro c rest h
  cases h

/-- A number may end before any character that cannot continue it. -/
lemma endsNumber_cons {c : Char} {cs : Input} (hd : c.isDigit = false) (hp : c ≠ '.') (he : c ≠ 'e')
    (hE : c ≠ 'E') : EndsNumber (some c :: cs) := by
  intro c' rest h
  cases h
  exact ⟨hd, hp, he, hE⟩

/-- The values of decimal digits. -/
def digitValues (ds : List Char) : List Nat := ds.map fun c => c.toNat - 48

/-- A run of digits is read as far as it goes. -/
lemma spanDigits_append {ds : List Char} {rest : Input} (hd : ∀ c ∈ ds, c.isDigit = true)
    (hr : EndsNumber rest) : spanDigits (ds.map some ++ rest) = (digitValues ds, rest) := by
  induction ds with
  | nil =>
    cases rest with
    | nil => rfl
    | cons c rest =>
      cases c with
      | none => rfl
      | some c =>
        have hc := (hr c rest rfl).1
        simp [spanDigits, digit?, hc, digitValues]
  | cons c ds ih =>
    have hc := hd c (by simp)
    have ih := ih fun x hx => hd x (by simp [hx])
    simp [spanDigits, digit?, hc, ih, digitValues]

/-- The digits of a positive number do not start with a zero. -/
lemma head?_toDigits {n : Nat} (hn : 0 < n) : (Nat.toDigits 10 n).head? ≠ some '0' := by
  induction n using Nat.strongRecOn with
  | _ n ih =>
    by_cases hlt : n < 10
    · have hdigit : ∀ k, k < 10 → Nat.digitChar k = '0' → k = 0 := by decide
      rw [Nat.toDigits_of_lt_base hlt]
      intro h
      have := hdigit n hlt (by simpa using h)
      omega
    · rw [Nat.toDigits_of_base_le (by decide) (by omega), List.head?_append]
      have ih := ih (n / 10) (by omega) (by omega)
      cases h : (Nat.toDigits 10 (n / 10)).head? with
      | none => exact absurd (List.head?_eq_none_iff.1 h) Nat.toDigits_ne_nil
      | some c =>
        rw [h] at ih
        simpa using ih

/-- The digits of a number are read as its whole part. -/
lemma scanWhole_toDigits (n : Nat) {rest : Input} (hr : EndsNumber rest) :
    scanWhole ((Nat.toDigits 10 n).map some ++ rest) = some (digitValues (Nat.toDigits 10 n), rest) := by
  have hd : ∀ c ∈ Nat.toDigits 10 n, c.isDigit = true := fun c hc =>
    Nat.isDigit_of_mem_toDigits (by decide) (by decide) hc
  rw [scanWhole, spanDigits_append hd hr]
  cases h : Nat.toDigits 10 n with
  | nil => exact absurd h Nat.toDigits_ne_nil
  | cons c ds =>
    cases ds with
    | nil => simp [digitValues]
    | cons d ds =>
      have hn : 0 < n := by
        cases n with
        | zero => simp at h
        | succ n => exact Nat.succ_pos n
      have hc : c ≠ '0' := by
        have := head?_toDigits hn
        simpa [h] using this
      have hpos : c.toNat - 48 ≠ 0 := by
        have hdc := hd c (by simp [h])
        intro hz
        apply hc
        apply Char.toNat_inj.1
        have hle := (Char.isDigit_iff_toNat.1 hdc).1
        have hzero : ('0' : Char).toNat = 48 := rfl
        omega
      simp only [digitValues, List.map_cons]
      split
      · next h' => simp at h'
      · next h' =>
        simp only [Prod.mk.injEq, List.cons.injEq] at h'
        omega
      · rfl

/-- Where a number ends there is no fraction. -/
lemma scanFraction_of_endsNumber {cs : Input} (h : EndsNumber cs) : scanFraction cs = some (none, cs) := by
  rw [scanFraction]
  · intro rest hcs
    exact (h '.' rest hcs).2.1 rfl

/-- Where a number ends there is no exponent. -/
lemma scanExponent_of_endsNumber {cs : Input} (h : EndsNumber cs) : scanExponent cs = some (none, cs) := by
  cases cs with
  | nil => rfl
  | cons c rest =>
    cases c with
    | none => rfl
    | some c =>
      obtain ⟨-, -, he, hE⟩ := h c rest rfl
      simp [scanExponent, he, hE]

/-- The digits of a number are scanned as a whole number. -/
lemma scanNumber_toDigits (negative : Bool) (n : Nat) {rest : Input} (hr : EndsNumber rest) :
    scanNumber negative ((Nat.toDigits 10 n).map some ++ rest) =
      some (⟨negative, digitValues (Nat.toDigits 10 n), none, none⟩, rest) := by
  simp [scanNumber, scanWhole_toDigits n hr, scanFraction_of_endsNumber hr, scanExponent_of_endsNumber hr]

/-- Digits are taken up to the end where the whole number fits. -/
lemma takeDigits_of_le (ds : List Char) (n : Nat) (h : Nat.ofDigitChars 10 ds n ≤ maxWord) :
    takeDigits n (digitValues ds) = (Nat.ofDigitChars 10 ds n, []) := by
  induction ds generalizing n with
  | nil => simp [digitValues, takeDigits]
  | cons c ds ih =>
    have hstep : 10 * n + (c.toNat - 48) = n * 10 + (c.toNat - 48) := by omega
    rw [Nat.ofDigitChars_cons] at h
    have hle : n * 10 + (c.toNat - 48) ≤ maxWord := by
      rw [Nat.ofDigitChars_eq_ofDigitChars_zero] at h
      have hpow : 1 ≤ 10 ^ ds.length := Nat.one_le_pow _ _ (by decide)
      have := Nat.mul_le_mul_right (10 * n + (c.toNat - '0'.toNat)) hpow
      have : ('0' : Char).toNat = 48 := rfl
      omega
    have ih := ih (n * 10 + (c.toNat - 48)) (by rw [← hstep]; exact h)
    simp only [digitValues, List.map_cons, takeDigits] at ih ⊢
    rw [if_pos hle, ih, Nat.ofDigitChars_cons]
    simp only [Prod.mk.injEq, and_true]
    rw [← hstep]
    rfl

/-- A number that 64 bits hold is the value of its digits. -/
lemma value?_toDigits {n : Nat} (h : n ≤ maxWord) :
    Literal.value? ⟨false, digitValues (Nat.toDigits 10 n), none, none⟩ = some (.integer n) := by
  have := takeDigits_of_le (Nat.toDigits 10 n) 0 (by rw [Nat.ofDigitChars_ten_toDigits]; exact h)
  simp [Literal.value?, this, Nat.ofDigitChars_ten_toDigits]

/-- A negative number that 64 bits hold is the value of its digits and its sign. -/
lemma value?_toDigits_neg {n : Nat} (hpos : 0 < n) (h : n ≤ 0x8000000000000000) :
    Literal.value? ⟨true, digitValues (Nat.toDigits 10 n), none, none⟩ = some (.integer (-n)) := by
  have hword : n ≤ maxWord := Nat.le_trans h (by decide)
  have := takeDigits_of_le (Nat.toDigits 10 n) 0 (by rw [Nat.ofDigitChars_ten_toDigits]; exact hword)
  simp [Literal.value?, this, Nat.ofDigitChars_ten_toDigits, hpos, h]

/-- The token of a whole number of 64 bits. -/
lemma scan_intChars {n : Int} (hlow : -0x8000000000000000 ≤ n) (hhigh : n < 0x10000000000000000)
    {rest : Input} (hr : EndsNumber rest) :
    scan ((intChars n).map some ++ rest) = (scan rest).map (.number (some (.integer n)) :: ·) := by
  cases n with
  | ofNat n =>
    have hfirst : ∀ c ∈ Nat.toDigits 10 n, c.isDigit = true := fun c hc =>
      Nat.isDigit_of_mem_toDigits (by decide) (by decide) hc
    have hnumber := scanNumber_toDigits false n hr
    simp only [intChars]
    cases h : Nat.toDigits 10 n with
    | nil => exact absurd h Nat.toDigits_ne_nil
    | cons c ds =>
      have hc : c.isDigit = true := hfirst c (by simp [h])
      have hword : n ≤ maxWord := by
        simp only [maxWord, UInt64.size]
        simp only [Int.ofNat_eq_natCast] at hhigh
        omega
      have hvalue := value?_toDigits hword
      have hne : ∀ d : Char, d.isDigit = false → c ≠ d := by
        rintro d hd rfl
        simp [hc] at hd
      have hblank : isBlank c = false := by
        simp [isBlank, hne ' ' rfl, hne '\n' rfl, hne '\t' rfl, hne '\r' rfl]
      rw [h] at hnumber hvalue
      apply scan_of_scanOne hblank
      simp only [List.map_cons, List.cons_append] at hnumber
      simp [scanOne, hne '"' rfl, hne '-' rfl, hc, hnumber, hvalue]
  | negSucc n =>
    have hnumber := scanNumber_toDigits true (n + 1) hr
    have hvalue := value?_toDigits_neg (n := n + 1) (by omega) (by omega)
    simp only [intChars, List.map_cons, List.cons_append]
    apply scan_of_scanOne (by decide)
    simp [scanOne, hnumber, hvalue, Int.negSucc_eq]

/-! ### Strings -/

/-- An escaped character is scanned as what it stands for. -/
lemma scanString_escape {done : Option (List Char)} {cs rest : Input} {d : Option Char}
    (h : unescape? cs = some (d, rest)) :
    scanString done (some '\\' :: cs) = scanString (d.bind fun d => done.map (d :: ·)) rest := by
  rw [scanString, if_neg (by decide), if_pos rfl]
  split
  · next h' => rw [h] at h'; contradiction
  · next h' =>
    rw [h] at h'
    cases h'
    rfl

/-- A hexadecimal digit stands for its value. -/
lemma hexValue?_hexDigit : ∀ n, n < 16 → hexValue? (hexDigit n) = some n := by
  decide

/-- A control that is written by its code point is read back. -/
lemma unescape?_control {c : Char} (h : c.toNat < 32) (rest : Input) :
    unescape? (some 'u' :: some '0' :: some '0' :: some (hexDigit (c.toNat / 16))
      :: some (hexDigit (c.toNat % 16)) :: rest) = some (some c, rest) := by
  have hhigh := hexValue?_hexDigit (c.toNat / 16) (by omega)
  have hlow := hexValue?_hexDigit (c.toNat % 16) (by omega)
  have hzero : hexValue? '0' = some 0 := by decide
  have hvalue : (((0 * 16 + 0) * 16 + c.toNat / 16) * 16 + c.toNat % 16) = c.toNat := by omega
  simp only [unescape?, hex4?, hhigh, hlow, hzero, Option.bind_eq_bind, Option.bind_some, hvalue]
  rw [if_neg (by omega), if_neg (by omega), Char.ofNat_toNat]

/-- A character that is written by a letter of its own is read back. -/
lemma scanString_named {e c : Char} (h : ofEscape? e = some c) (hu : e ≠ 'u') (done : List Char)
    (rest : Input) :
    scanString (some done) (some '\\' :: some e :: rest) = scanString (some (c :: done)) rest := by
  have hread : unescape? (some e :: rest) = some (some c, rest) := by
    rw [unescape?, h]
    · rfl
    · exact hu
  exact scanString_escape hread

/-- A character is read from the way it stands in a string. -/
lemma scanString_escapeChar (c : Char) (done : List Char) (rest : Input) :
    scanString (some done) ((escapeChar c).map some ++ rest) = scanString (some (c :: done)) rest := by
  unfold escapeChar
  split_ifs with hquote hslash hb hf hn hr ht hcontrol
  · subst hquote
    exact scanString_named (by decide) (by decide) done rest
  · subst hslash
    exact scanString_named (by decide) (by decide) done rest
  · subst hb
    exact scanString_named (by decide) (by decide) done rest
  · subst hf
    exact scanString_named (by decide) (by decide) done rest
  · subst hn
    exact scanString_named (by decide) (by decide) done rest
  · subst hr
    exact scanString_named (by decide) (by decide) done rest
  · subst ht
    exact scanString_named (by decide) (by decide) done rest
  · exact scanString_escape (unescape?_control hcontrol rest)
  · rw [List.map_cons, List.map_nil, List.cons_append, List.nil_append, scanString, if_neg hquote,
      if_neg hslash, if_neg hcontrol]
    rfl

/-- The characters of a string are scanned up to its closing quote. -/
lemma scanString_flatMap (cs done : List Char) (rest : Input) :
    scanString (some done) ((cs.flatMap escapeChar).map some ++ some '"' :: rest) =
      some (some (String.ofList (done.reverse ++ cs)), rest) := by
  induction cs generalizing done with
  | nil => simp [scanString]
  | cons c cs ih =>
    rw [List.flatMap_cons, List.map_append, List.append_assoc, scanString_escapeChar, ih]
    simp

/-- A string is scanned as one token. -/
lemma scan_stringChars (s : String) (rest : Input) :
    scan ((stringChars s).map some ++ rest) = (scan rest).map (.string (some s) :: ·) := by
  have h := scanString_flatMap s.toList [] rest
  simp only [List.reverse_nil, List.nil_append, String.ofList_toList] at h
  simp only [stringChars, List.map_cons, List.map_append, List.map_nil, List.cons_append,
    List.append_assoc, List.nil_append]
  apply scan_of_scanOne (by decide)
  simp [scanOne, h]

/-! ### Signs and words -/

/-- A sign is scanned as one token. -/
lemma scan_sign {c : Char} {t : Token} (h : ofSign? c = some t) (rest : Input) :
    scan (some c :: rest) = (scan rest).map (t :: ·) := by
  -- no sign is a blank, and no other token starts with one
  unfold ofSign? at h
  split_ifs at h with h1 h2 h3 h4 h5 h6 <;> cases h <;> subst_vars <;>
    exact scan_of_scanOne (by decide) rfl

/-- The word for nothing is scanned as one token. -/
lemma scan_null (rest : Input) :
    scan (['n', 'u', 'l', 'l'].map some ++ rest) = (scan rest).map (.null :: ·) :=
  scan_of_scanOne (by decide) rfl

/-- The word for a truth value is scanned as one token. -/
lemma scan_bool (b : Bool) (rest : Input) :
    scan ((Json.bool b).chars.map some ++ rest) = (scan rest).map (.bool b :: ·) := by
  cases b with
  | false => exact scan_of_scanOne (by decide) rfl
  | true => exact scan_of_scanOne (by decide) rfl

end Token

open Token

/-- A number may end before the next item or the end of an array. -/
lemma endsNumber_moreItems (items : List Json) (rest : Input) :
    EndsNumber ((chars.moreItems items).map some ++ rest) := by
  cases items with
  | nil => exact endsNumber_cons (by decide) (by decide) (by decide) (by decide)
  | cons item items => exact endsNumber_cons (by decide) (by decide) (by decide) (by decide)

/-- A number may end before the next member or the end of an object. -/
lemma endsNumber_moreMembers (members : List (String × Json)) (rest : Input) :
    EndsNumber ((chars.moreMembers members).map some ++ rest) := by
  cases members with
  | nil => exact endsNumber_cons (by decide) (by decide) (by decide) (by decide)
  | cons member members => exact endsNumber_cons (by decide) (by decide) (by decide) (by decide)

mutual

/-- The text of a value is cut into the tokens of the value. -/
theorem scan_chars : ∀ (v : Json) (rest : Input), v.IsWhole → EndsNumber rest →
    scan (v.chars.map some ++ rest) = (scan rest).map (v.tokens ++ ·)
  | .null, rest, _, _ => scan_null rest
  | .bool b, rest, _, _ => scan_bool b rest
  | .number (.integer n), rest, hv, hr => scan_intChars hv.1 hv.2 hr
  | .number (.double _), _, hv, _ => hv.elim
  | .string s, rest, _, _ => scan_stringChars s rest
  | .array [], rest, _, _ => by
    simp only [chars, tokens, List.map_cons, List.map_nil, List.cons_append, List.nil_append]
    rw [scan_sign rfl, scan_sign rfl, Option.map_map]
    rfl
  | .array (item :: items), rest, hv, _ => by
    have hitem := scan_chars item ((chars.moreItems items).map some ++ rest) hv.1
      (endsNumber_moreItems items rest)
    have hitems := scan_moreItems items rest hv.2
    simp only [chars, tokens, List.map_cons, List.map_append, List.cons_append, List.append_assoc]
    rw [scan_sign rfl, hitem, hitems, Option.map_map, Option.map_map]
    rfl
  | .object [], rest, _, _ => by
    simp only [chars, tokens, List.map_cons, List.map_nil, List.cons_append, List.nil_append]
    rw [scan_sign rfl, scan_sign rfl, Option.map_map]
    rfl
  | .object ((name, value) :: members), rest, hv, _ => by
    have hvalue := scan_chars value ((chars.moreMembers members).map some ++ rest) hv.1
      (endsNumber_moreMembers members rest)
    have hmembers := scan_moreMembers members rest hv.2
    simp only [chars, tokens, List.map_cons, List.map_append, List.cons_append, List.append_assoc]
    rw [scan_sign rfl, scan_stringChars, scan_sign rfl, hvalue, hmembers]
    simp only [Option.map_map]
    rfl

/-- The further items of an array are scanned one by one. -/
lemma scan_moreItems : ∀ (items : List Json) (rest : Input), IsWhole.itemsAreWhole items →
    scan ((chars.moreItems items).map some ++ rest) = (scan rest).map (tokens.moreItems items ++ ·)
  | [], rest, _ => scan_sign rfl rest
  | item :: items, rest, hv => by
    have hitem := scan_chars item ((chars.moreItems items).map some ++ rest) hv.1
      (endsNumber_moreItems items rest)
    have hitems := scan_moreItems items rest hv.2
    simp only [chars.moreItems, tokens.moreItems, List.map_cons, List.map_append, List.cons_append,
      List.append_assoc]
    rw [scan_sign rfl, hitem, hitems, Option.map_map, Option.map_map]
    rfl

/-- The rest of an object is cut into its tokens. -/
lemma scan_moreMembers : ∀ (members : List (String × Json)) (rest : Input),
    IsWhole.membersAreWhole members →
    scan ((chars.moreMembers members).map some ++ rest) =
      (scan rest).map (tokens.moreMembers members ++ ·)
  | [], rest, _ => scan_sign rfl rest
  | (name, value) :: members, rest, hv => by
    have hvalue := scan_chars value ((chars.moreMembers members).map some ++ rest) hv.1
      (endsNumber_moreMembers members rest)
    have hmembers := scan_moreMembers members rest hv.2
    simp only [chars.moreMembers, tokens.moreMembers, List.map_cons, List.map_append,
      List.cons_append, List.append_assoc]
    rw [scan_sign rfl, scan_stringChars, scan_sign rfl, hvalue, hmembers]
    simp only [Option.map_map]
    rfl

end

/-- The text of a value is scanned to its tokens, with nothing behind it. -/
lemma scan_chars_nil {v : Json} (hv : v.IsWhole) : scan (v.chars.map some) = some v.tokens := by
  have h := scan_chars v [] hv endsNumber_nil
  rw [List.append_nil] at h
  rw [h, scan]
  simp

end DirectShare.Json
