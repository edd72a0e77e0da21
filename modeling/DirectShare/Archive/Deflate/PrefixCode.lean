import DirectShare.Archive.Deflate.Unpacker

/-!
# Prefix codes

A prefix code gives each symbol a code word, none of which starts another. The lengths of the words
determine the code: shorter words come before longer ones in the order of numbers, and words of one
length follow the order of their symbols.

A `PrefixCode` is made from the lengths of its words by `PrefixCode.ofLengths?`, which refuses
lengths that do not make a code, and `PrefixCode.symbol` reads one symbol from a stream of bits.
-/

namespace DirectShare.Archive.Deflate

/-- The symbols of each word length, from length one, in the order of their words. -/
structure PrefixCode where
  /-- The symbols with a word, by its length. -/
  symbols : List (Array Nat)

namespace PrefixCode

/-- The greatest length of a word. -/
def greatestLength : Nat := 15

/-- The symbols whose words have the given length. -/
def ofLength (lengths : List Nat) (length : Nat) : Array Nat :=
  ((lengths.zipIdx.filter fun (l, _) => l = length).map (·.2)).toArray

/-- How much of the words of the greatest length the symbols use up, each with all the words that
start with its own. -/
def weight (lengths : List Nat) : Nat :=
  (lengths.filter (0 < ·)).foldl (fun n l => n + Nat.pow 2 (greatestLength - l)) 0

/-- The code with the given lengths, where zero stands for a symbol without word. Unless it is
complete it may have one symbol only, and none at all if it must be complete. -/
def ofLengths? (complete : Bool) (lengths : List Nat) : Option PrefixCode :=
  if weight lengths = Nat.pow 2 greatestLength ∨ (complete = false ∧ (lengths.filter (0 < ·)).length ≤ 1) then
    some { symbols := (List.range' 1 greatestLength).map (ofLength lengths) }
  else none

/-- Reads a symbol, given how far the words of the greatest length so far exceed the word read. -/
def symbolFrom : List (Array Nat) → (word first : Nat) → Unpacker Nat
  | [], _, _ => throw .corrupt
  | row :: rows, word, first => do
    let word := 2 * word + (← Unpacker.bit).toNat
    match if first ≤ word then row[word - first]? else none with
    | some s => return s
    | none => symbolFrom rows word (2 * (first + row.size))

/-- Reads a symbol. -/
def symbol (code : PrefixCode) : Unpacker Nat := symbolFrom code.symbols 0 0

end PrefixCode

end DirectShare.Archive.Deflate
