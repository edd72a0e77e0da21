import DirectShare.Wire.Frame
import DirectShare.Wire.Error
import DirectShare.Text.WordClass

/-!
# Reading frames

The text of a frame is first cut into its parts: a word, digits and a word between colons, and what
stands after a `?`. Each part is then read by itself. The digits of the cut may be of any script,
while the number is read from plain digits only.

A `Frame.Layout` has the parts of a text that is laid out like a frame. `Frame.parse` reads the
frame of a text, and `Frame.decode` that of bytes.
-/

namespace DirectShare.Frame

/-- The parts of a text that is laid out like a frame. -/
structure Layout where
  /-- The word before the first colon. -/
  kind : List Char
  /-- The digits between the colons. -/
  digits : List Char
  /-- The word after the second colon. -/
  name : List Char
  /-- What follows the question mark, or nothing. -/
  payload : List Char
deriving DecidableEq, Repr

/-- The longest start whose characters all are of a class, which must not be empty, and the rest. -/
def takeRun (p : Char → Bool) (cs : List Char) : Option (List Char × List Char) :=
  if cs.takeWhile p = [] then none else some (cs.takeWhile p, cs.dropWhile p)

/-- What follows a colon. -/
def afterColon : List Char → Option (List Char)
  | ':' :: cs => some cs
  | _ => none

/-- What follows a question mark, or nothing at the end of the text. -/
def payloadPart : List Char → Option (List Char)
  | [] => some []
  | '?' :: cs => some cs
  | _ => none

/-- The parts of a text, if it is laid out like a frame. -/
def Layout.ofChars? (cs : List Char) : Option Layout := do
  let (kind, cs) ← takeRun Text.isWord cs
  let cs ← afterColon cs
  let (digits, cs) ← takeRun Text.isDecimalDigit cs
  let cs ← afterColon cs
  let (name, cs) ← takeRun Text.isWord cs
  let payload ← payloadPart cs
  return { kind, digits, name, payload }

/-- The kind that a word stands for. -/
def Kind.ofWord? (cs : List Char) : Option Kind :=
  if cs = Kind.action.word.toList then some .action
  else if cs = Kind.ack.word.toList then some .ack
  else none

/-- The number of 32 bits that plain digits stand for. -/
def sequence? (digits : List Char) : Option UInt32 :=
  if digits.all Char.isDigit ∧ Nat.ofDigitChars 10 digits 0 < UInt32.size then
    some (UInt32.ofNat (Nat.ofDigitChars 10 digits 0))
  else none

/-- The payload that the characters after the question mark stand for. -/
def Payload.ofChars : List Char → Except Fault Payload
  | [] => .ok .empty
  | '!' :: cs =>
    match Base64.bytes? cs with
    | some bs => .ok (.sealed bs)
    | none => .error .base64
  | cs =>
    match Json.parse (String.ofList cs) with
    | some body => .ok (.json body)
    | none => .error .json

/-- The frame whose parts these are. -/
def ofLayout (l : Layout) : Except Fault Frame :=
  match Kind.ofWord? l.kind with
  | none => .error .kind
  | some kind =>
    match sequence? l.digits with
    | none => .error .sequence
    | some sequence =>
      match Action.ofName? l.name with
      | none => .error .action
      | some action => (Payload.ofChars l.payload).map fun payload => { kind, sequence, action, payload }

/-- The frame that characters stand for. -/
def parseChars (cs : List Char) : Except Fault Frame :=
  match Layout.ofChars? cs with
  | none => .error .layout
  | some l => ofLayout l

/-- The frame that a text stands for. -/
def parse (s : String) : Except DecodeError Frame :=
  match parseChars s.toList with
  | .ok f => .ok f
  | .error fault => .error (.frame fault s)

/-- The frame that bytes stand for. -/
def decode (bs : Bytes) : Except DecodeError Frame :=
  match Utf8.decode bs with
  | none => .error .notUtf8
  | some s => parse s

end DirectShare.Frame
