import DirectShare.Bytes

/-!
# Text as bytes

Text travels as UTF-8. `Utf8.decode` accepts exactly what `Utf8.encode` writes, so a text and its
bytes determine each other.

`Utf8.encode` and `Utf8.decode` are the two directions. `Utf8.characters` gives the characters of
bytes some of which may belong to no character, and `Utf8.repair` the text with a sign in their
place.
-/

namespace DirectShare.Utf8

/-- The UTF-8 bytes of a text. -/
def encode (s : String) : Bytes := s.toByteArray.data.toList

/-- The text whose UTF-8 bytes these are, if there is one. -/
def decode (bs : Bytes) : Option String := String.fromUTF8? bs.toByteArray

/-- The shortest start of the bytes, of at most four, that is one character. -/
def first? (bs : Bytes) : Option Char :=
  [1, 2, 3, 4].findSome? fun n => (decode (bs.take n)).bind fun s => s.toList.head?

/-- The characters of a byte string in order, with `none` for each byte that belongs to no character. -/
def characters (bs : Bytes) : List (Option Char) :=
  match decode bs with
  | some s => s.toList.map some
  | none => salvage bs
where
  /-- Takes one character after the other, and steps over one byte where there is none. -/
  salvage : Bytes → List (Option Char)
    | [] => []
    | b :: bs =>
      match first? (b :: bs) with
      | some c => some c :: salvage (bs.drop (c.utf8Size - 1))
      | none => none :: salvage bs
  termination_by bs => bs.length
  decreasing_by all_goals simp only [List.length_cons, List.length_drop]; omega

/-- Whether a byte may stand after the first of a character. -/
def isContinuation (b : UInt8) : Bool := 0x80 ≤ b && b < 0xC0

/-- Whether a character of three or four bytes may start with these two. -/
def mayStart (a b : UInt8) : Bool :=
  if a = 0xE0 then 0xA0 ≤ b && b < 0xC0
  else if a = 0xED then 0x80 ≤ b && b < 0xA0
  else if a = 0xF0 then 0x90 ≤ b && b < 0xC0
  else if a = 0xF4 then 0x80 ≤ b && b < 0x90
  else 0xE0 < a && a < 0xF4 && isContinuation b

/-- How many bytes, at least one, start a character that is broken off there. -/
def brokenLength : Bytes → Nat
  | a :: b :: c :: _ => if mayStart a b then if a < 0xF0 then 2 else if isContinuation c then 3 else 2 else 1
  | [a, b] => if mayStart a b then 2 else 1
  | _ => 1

/-- The text of a byte string, with the replacement sign for each broken character. -/
def repair (bs : Bytes) : String :=
  match decode bs with
  | some s => s
  | none => String.ofList (replace bs)
where
  /-- Takes one character, or what is left of one, after the other. -/
  replace : Bytes → List Char
    | [] => []
    | b :: bs =>
      match first? (b :: bs) with
      | some c => c :: replace (bs.drop (c.utf8Size - 1))
      | none => '\uFFFD' :: replace (bs.drop (brokenLength (b :: bs) - 1))
  termination_by bs => bs.length
  decreasing_by all_goals simp only [List.length_cons, List.length_drop]; omega

/-- A text is read back from its bytes. -/
@[simp] theorem decode_encode (s : String) : decode (encode s) = some s := by
  have h : (encode s).toByteArray = s.toByteArray := by ext1; simp [encode]
  simp [decode, h, String.fromUTF8?, String.fromUTF8, s.isValidUTF8]

/-- Bytes that read as a text are the bytes of that text. -/
theorem encode_eq_of_decode {bs : Bytes} {s : String} (h : decode bs = some s) : encode s = bs := by
  simp only [decode, String.fromUTF8?] at h
  split at h
  · cases h
    simp [encode, String.fromUTF8]
  · contradiction

/-- Bytes are read as a text exactly if they are the bytes of that text. -/
theorem decode_eq_some_iff {bs : Bytes} {s : String} : decode bs = some s ↔ bs = encode s :=
  ⟨fun h => (encode_eq_of_decode h).symm, fun h => h ▸ decode_encode s⟩

/-- Different texts have different bytes. -/
theorem encode_injective {s t : String} (h : encode s = encode t) : s = t := by
  have := congrArg decode h
  simpa using this

/-- Where nothing is broken nothing is replaced. -/
@[simp] theorem repair_encode (s : String) : repair (encode s) = s := by
  simp [repair]

/-- The characters of a text's bytes are those of the text. -/
@[simp] theorem characters_encode (s : String) : characters (encode s) = s.toList.map some := by
  simp [characters]

end DirectShare.Utf8
