import DirectShare.Json.Literal

/-!
# The tokens of a JSON text

The text is given by its characters, with `none` for a byte that belongs to no character. Such a
byte may stand inside a string only, and makes the string unreadable, as does half of a surrogate
pair. An unreadable string and a number beyond the largest are still tokens.

`Json.Token.scan` cuts a text into its tokens, or fails where no `Json.Token` begins.
-/

namespace DirectShare.Json

/-- A token of a JSON text. -/
inductive Token where
  /-- An opening brace. -/
  | openObject
  /-- A closing brace. -/
  | closeObject
  /-- An opening bracket. -/
  | openArray
  /-- A closing bracket. -/
  | closeArray
  /-- A colon. -/
  | colon
  /-- A comma. -/
  | comma
  /-- The word `null`. -/
  | null
  /-- The words `true` and `false`. -/
  | bool (b : Bool)
  /-- A number, or `none` beyond the largest. -/
  | number (n : Option Number)
  /-- A string, or `none` if it is unreadable. -/
  | string (s : Option String)
deriving DecidableEq, Repr

namespace Token

/-- The characters of a text, with `none` for a byte that belongs to no character. -/
abbrev Input := List (Option Char)

/-- Whether the character may stand between tokens. -/
def isBlank (c : Char) : Bool := c = ' ' || c = '\n' || c = '\t' || c = '\r'

/-- The token that a single sign stands for. -/
def ofSign? (c : Char) : Option Token :=
  if c = '\x7b' then some .openObject
  else if c = '\x7d' then some .closeObject
  else if c = '[' then some .openArray
  else if c = ']' then some .closeArray
  else if c = ':' then some .colon
  else if c = ',' then some .comma
  else none

/-- The value of a decimal digit. -/
def digit? (c : Char) : Option Nat := if c.isDigit then some (c.toNat - 48) else none

/-- The value of a hexadecimal digit of either case. -/
def hexValue? (c : Char) : Option Nat :=
  if c.isDigit then some (c.toNat - 48)
  else if 'a' ≤ c ∧ c ≤ 'f' then some (c.toNat - 87)
  else if 'A' ≤ c ∧ c ≤ 'F' then some (c.toNat - 55)
  else none

/-- The number that four hexadecimal digits stand for, and what follows them. -/
def hex4? : Input → Option (Nat × Input)
  | some a :: some b :: some c :: some d :: rest => do
    let a ← hexValue? a
    let b ← hexValue? b
    let c ← hexValue? c
    let d ← hexValue? d
    some (((a * 16 + b) * 16 + c) * 16 + d, rest)
  | _ => none

/-- The low half of a surrogate pair, if it is written next. -/
def lowHalf? : Input → Option (Nat × Input)
  | some '\\' :: some 'u' :: rest =>
    match hex4? rest with
    | some (n, rest) => if 0xdc00 ≤ n ∧ n ≤ 0xdfff then some (n, rest) else none
    | none => none
  | _ => none

/-- The character that a backslash and the named letter stand for. -/
def ofEscape? (c : Char) : Option Char :=
  if c = '"' then some '"'
  else if c = '\\' then some '\\'
  else if c = '/' then some '/'
  else if c = 'b' then some '\x08'
  else if c = 'f' then some '\x0c'
  else if c = 'n' then some '\n'
  else if c = 'r' then some '\r'
  else if c = 't' then some '\t'
  else none

/--
The character written by what follows a backslash, and the rest. The character is `none` for half of
a surrogate pair.
-/
def unescape? : Input → Option (Option Char × Input)
  | some 'u' :: rest =>
    match hex4? rest with
    | none => none
    | some (n, rest) =>
      if 0xd800 ≤ n ∧ n ≤ 0xdbff then
        match lowHalf? rest with
        | some (m, rest) => some (some (Char.ofNat (0x10000 + (n - 0xd800) * 0x400 + (m - 0xdc00))), rest)
        | none => some (none, rest)
      else if 0xdc00 ≤ n ∧ n ≤ 0xdfff then some (none, rest)
      else some (some (Char.ofNat n), rest)
  | some c :: rest => (ofEscape? c).map fun d => (some d, rest)
  | _ => none

/-- Reading four hexadecimal digits takes some of the text. -/
theorem hex4?_length {cs rest : Input} {n : Nat} (h : hex4? cs = some (n, rest)) :
    rest.length < cs.length := by
  simp only [hex4?] at h
  split at h
  · simp only [Option.bind_eq_bind, Option.bind_eq_some_iff, Option.some.injEq, Prod.mk.injEq] at h
    obtain ⟨_, _, _, _, _, _, _, _, _, rfl⟩ := h
    simp only [List.length_cons]
    omega
  · contradiction

/-- Reading the second half of a pair takes some of the text. -/
theorem lowHalf?_length {cs rest : Input} {n : Nat} (h : lowHalf? cs = some (n, rest)) :
    rest.length < cs.length := by
  simp only [lowHalf?] at h
  split at h
  · split at h
    · next hx =>
      have := hex4?_length hx
      split at h
      · cases h
        simp only [List.length_cons]
        omega
      · contradiction
    · contradiction
  · contradiction

/-- An escape takes at least one character. -/
theorem unescape?_length {cs rest : Input} {c : Option Char} (h : unescape? cs = some (c, rest)) :
    rest.length < cs.length := by
  simp only [unescape?] at h
  split at h
  · split at h
    · contradiction
    · next hx =>
      have := hex4?_length hx
      split at h
      · split at h
        · next hl =>
          have := lowHalf?_length hl
          cases h
          simp only [List.length_cons]
          omega
        · cases h
          simp only [List.length_cons]
          omega
      · split at h <;> cases h <;> simp only [List.length_cons] <;> omega
  · simp only [Option.map_eq_some_iff, Prod.mk.injEq] at h
    obtain ⟨_, _, _, rfl⟩ := h
    simp
  · contradiction

/--
The string that ends at the next quote, and what follows the quote. The characters read so far are
`done`, in reverse, or `none` once one of them was unreadable.
-/
def scanString (done : Option (List Char)) : Input → Option (Option String × Input)
  | [] => none
  | none :: rest => scanString none rest
  | some c :: rest =>
    if c = '"' then some (done.map fun cs => String.ofList cs.reverse, rest)
    else if c = '\\' then
      match _h : unescape? rest with
      | none => none
      | some (d, rest') => scanString (d.bind fun d => done.map (d :: ·)) rest'
    else if c.toNat < 32 then none
    else scanString (done.map (c :: ·)) rest
termination_by cs => cs.length
decreasing_by
  · simp
  · have := unescape?_length _h
    simp only [List.length_cons]
    omega
  · simp

/-- The digits at the start, and the rest. -/
def spanDigits : Input → List Nat × Input
  | some c :: rest =>
    match digit? c with
    | some d => (d :: (spanDigits rest).1, (spanDigits rest).2)
    | none => ([], some c :: rest)
  | cs => ([], cs)

/-- The digits after a point, if a point comes next. A point without digits is refused. -/
def scanFraction : Input → Option (Option (List Nat) × Input)
  | some '.' :: rest =>
    match spanDigits rest with
    | ([], _) => none
    | (ds, rest) => some (some ds, rest)
  | cs => some (none, cs)

/-- The sign of an exponent, and the rest. -/
def scanSign : Input → Bool × Input
  | some '+' :: rest => (false, rest)
  | some '-' :: rest => (true, rest)
  | cs => (false, cs)

/-- The exponent, if one comes next. An exponent without digits is refused. -/
def scanExponent : Input → Option (Option (Bool × List Nat) × Input)
  | some c :: rest =>
    if c = 'e' ∨ c = 'E' then
      let (negative, rest) := scanSign rest
      match spanDigits rest with
      | ([], _) => none
      | (ds, rest) => some (some (negative, ds), rest)
    else some (none, some c :: rest)
  | cs => some (none, cs)

/-- The digits before the point: a zero, or digits that start with none. -/
def scanWhole (cs : Input) : Option (List Nat × Input) :=
  match spanDigits cs with
  | ([], _) => none
  | (0 :: _ :: _, _) => none
  | found => some found

/-- The number after its sign, and the rest. -/
def scanNumber (negative : Bool) (cs : Input) : Option (Literal × Input) :=
  match scanWhole cs with
  | none => none
  | some (whole, cs) =>
    match scanFraction cs with
    | none => none
    | some (fraction, cs) =>
      match scanExponent cs with
      | none => none
      | some (exponent, cs) => some ({ negative, whole, fraction, exponent }, cs)

/-- What follows the given characters, if they come next. -/
def dropWord? : List Char → Input → Option Input
  | [], cs => some cs
  | c :: word, some d :: cs => if c = d then dropWord? word cs else none
  | _ :: _, _ => none

/-- The token at the start of the input, which starts with the given character, and the rest. -/
def scanOne (c : Char) (rest : Input) : Option (Token × Input) :=
  if c = '"' then (scanString (some []) rest).map fun (s, rest) => (.string s, rest)
  else if c = '-' then (scanNumber true rest).map fun (l, rest) => (.number l.value?, rest)
  else if c.isDigit then
    (scanNumber false (some c :: rest)).map fun (l, rest) => (.number l.value?, rest)
  else if c = 'n' then (dropWord? ['u', 'l', 'l'] rest).map fun rest => (.null, rest)
  else if c = 't' then (dropWord? ['r', 'u', 'e'] rest).map fun rest => (.bool true, rest)
  else if c = 'f' then (dropWord? ['a', 'l', 's', 'e'] rest).map fun rest => (.bool false, rest)
  else (ofSign? c).map fun t => (t, rest)

/-! ### Every token takes a character -/

/-- Reading a string takes some of the text. -/
theorem scanString_length {done : Option (List Char)} {cs rest : Input} {s : Option String}
    (h : scanString done cs = some (s, rest)) : rest.length < cs.length := by
  fun_induction scanString done cs with
  | case1 => contradiction
  | case2 done rest' ih =>
    have := ih h
    simp only [List.length_cons]
    omega
  | case3 =>
    simp only [Option.some.injEq, Prod.mk.injEq] at h
    obtain ⟨_, rfl⟩ := h
    simp
  | case4 => contradiction
  | case5 done rest' d rest'' hu hc ih =>
    have := ih h
    have := unescape?_length hu
    simp only [List.length_cons]
    omega
  | case6 => contradiction
  | case7 done c rest' _ _ _ ih =>
    have := ih h
    simp only [List.length_cons]
    omega

/-- Reading digits adds nothing to the text. -/
theorem spanDigits_length (cs : Input) : (spanDigits cs).2.length ≤ cs.length := by
  fun_induction spanDigits cs with
  | case1 c rest d h ih => simp only [List.length_cons]; omega
  | case2 => simp
  | case3 => simp

/-- Reading a fraction adds nothing to the text. -/
theorem scanFraction_length {cs rest : Input} {f : Option (List Nat)}
    (h : scanFraction cs = some (f, rest)) : rest.length ≤ cs.length := by
  simp only [scanFraction] at h
  split at h
  · next tail =>
    have := spanDigits_length tail
    split at h
    · contradiction
    · next hs =>
      cases h
      simp only [hs] at this
      simp only [List.length_cons]
      omega
  · cases h
    simp

/-- Reading a sign adds nothing to the text. -/
theorem scanSign_length (cs : Input) : (scanSign cs).2.length ≤ cs.length := by
  simp only [scanSign]
  split <;> simp

/-- Reading an exponent adds nothing to the text. -/
theorem scanExponent_length {cs rest : Input} {e : Option (Bool × List Nat)}
    (h : scanExponent cs = some (e, rest)) : rest.length ≤ cs.length := by
  simp only [scanExponent] at h
  split at h
  · next c tail =>
    split at h
    · have := scanSign_length tail
      have := spanDigits_length (scanSign tail).2
      split at h
      · contradiction
      · next hs =>
        cases h
        simp only [hs] at this
        simp only [List.length_cons]
        omega
    · cases h
      simp
  · cases h
    simp

/-- Reading the whole part of a number takes some of the text. -/
theorem scanWhole_length {cs rest : Input} {ds : List Nat} (h : scanWhole cs = some (ds, rest)) :
    rest.length < cs.length := by
  cases cs with
  | nil => simp [scanWhole, spanDigits] at h
  | cons c cs =>
    cases c with
    | none => simp [scanWhole, spanDigits] at h
    | some c =>
      simp only [scanWhole, spanDigits] at h
      cases hd : digit? c with
      | none => simp [hd] at h
      | some d =>
        have := spanDigits_length cs
        simp only [hd] at h
        split at h
        · contradiction
        · contradiction
        · simp only [Option.some.injEq, Prod.mk.injEq] at h
          obtain ⟨_, rfl⟩ := h
          simp only [List.length_cons]
          omega

/-- Reading a number takes some of the text. -/
theorem scanNumber_length {negative : Bool} {cs rest : Input} {l : Literal}
    (h : scanNumber negative cs = some (l, rest)) : rest.length < cs.length := by
  simp only [scanNumber] at h
  split at h
  · contradiction
  · next hw =>
    have := scanWhole_length hw
    split at h
    · contradiction
    · next hf =>
      have := scanFraction_length hf
      split at h
      · contradiction
      · next he =>
        have := scanExponent_length he
        cases h
        omega

/-- Reading a word adds nothing to the text. -/
theorem dropWord?_length {word : List Char} {cs rest : Input} (h : dropWord? word cs = some rest) :
    rest.length ≤ cs.length := by
  induction word generalizing cs with
  | nil => cases h; simp
  | cons c word ih =>
    cases cs with
    | nil => contradiction
    | cons d cs =>
      cases d with
      | none => contradiction
      | some d =>
        simp only [dropWord?] at h
        split at h
        · have := ih h
          simp only [List.length_cons]
          omega
        · contradiction

/-- Reading a token adds nothing to the text behind its first character. -/
theorem scanOne_length {c : Char} {rest rest' : Input} {t : Token}
    (h : scanOne c rest = some (t, rest')) : rest'.length ≤ rest.length := by
  simp only [scanOne] at h
  repeat' split at h
  all_goals simp only [Option.map_eq_some_iff, Prod.mk.injEq] at h
  · obtain ⟨⟨_, _⟩, hs, _, rfl⟩ := h
    exact Nat.le_of_lt (scanString_length hs)
  · obtain ⟨⟨_, _⟩, hs, _, rfl⟩ := h
    exact Nat.le_of_lt (scanNumber_length hs)
  · obtain ⟨⟨_, _⟩, hs, _, rfl⟩ := h
    exact Nat.le_of_lt_succ (scanNumber_length hs)
  · obtain ⟨_, hs, _, rfl⟩ := h
    exact dropWord?_length hs
  · obtain ⟨_, hs, _, rfl⟩ := h
    exact dropWord?_length hs
  · obtain ⟨_, hs, _, rfl⟩ := h
    exact dropWord?_length hs
  · obtain ⟨_, _, _, rfl⟩ := h
    simp

/-- The tokens of a text, or `none` if a part of it is no token. -/
def scan : Input → Option (List Token)
  | [] => some []
  | none :: _ => none
  | some c :: rest =>
    if isBlank c then scan rest
    else
      match _h : scanOne c rest with
      | none => none
      | some (t, rest') => (scan rest').map (t :: ·)
termination_by cs => cs.length
decreasing_by
  · simp
  · have := scanOne_length _h
    simp only [List.length_cons]
    omega

end Token

end DirectShare.Json
