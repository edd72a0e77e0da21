import DirectShare.Text.Quoted

/-!
# The texts of a TOML document

What stands between and inside values: blanks, comments and quoted texts. Line ends are single
characters here, since `Toml.joinLines` has taken the carriage returns before them away.

A `Toml.Reader` reads a part at the start of a text and leaves the rest; `Toml.quoted` is the reader
of a quoted text in any of its forms.
-/

namespace DirectShare.Toml

/-- Reads a part at the start of a text, and leaves the rest. -/
abbrev Reader (α : Type) := List Char → Option (α × List Char)

/-- The text without the carriage returns before line ends. -/
def joinLines : List Char → List Char
  | '\r' :: '\n' :: cs => '\n' :: joinLines cs
  | c :: cs => c :: joinLines cs
  | [] => []

/-- Whether a character may stand between the parts of a line. -/
def isBlank (c : Char) : Bool := c = ' ' || c = '\t'

/-- Whether a character may stand in a comment: all but controls, and the tabulator. -/
def isCommentChar (c : Char) : Bool := c = '\t' || (' ' ≤ c && c ≠ '\x7f')

/-- The text without the blanks at its start. -/
def skipBlanks (cs : List Char) : List Char := cs.dropWhile isBlank

/-- The text without the blanks, line ends and comments at its start. -/
def skipSpace : (inComment : Bool) → List Char → List Char
  | _, [] => []
  | true, c :: cs => if isCommentChar c then skipSpace true cs else if c = '\n' then skipSpace false cs else c :: cs
  | false, c :: cs =>
    if isBlank c || c = '\n' then skipSpace false cs else if c = '#' then skipSpace true cs else c :: cs

/-- The text after the end of the line, before which only blanks and a comment may stand. -/
def endLine (cs : List Char) : Option (List Char) :=
  let rest := match skipBlanks cs with
    | '#' :: cs => cs.dropWhile isCommentChar
    | cs => cs
  match rest with
  | [] => some []
  | '\n' :: cs => some cs
  | _ => none

/-! ### Quoted texts -/

/-- The value of a hexadecimal digit. -/
def hexValue? (c : Char) : Option Nat :=
  if c.isDigit then some (c.toNat - 48)
  else if 'a' ≤ c ∧ c ≤ 'f' then some (c.toNat - 87)
  else if 'A' ≤ c ∧ c ≤ 'F' then some (c.toNat - 55)
  else none

/-- The character with the code point that hexadecimal digits stand for. -/
def codePoint? (digits : List Char) : Option Char := do
  let ds ← digits.mapM hexValue?
  let n := ds.foldl (fun n d => n * 16 + d) 0
  if n.isValidChar then some (Char.ofNat n) else none

/-- The character that a letter after a backslash stands for. -/
def escape? (c : Char) : Option Char :=
  if c = 'b' then some '\x08'
  else if c = 't' then some '\t'
  else if c = 'n' then some '\n'
  else if c = 'f' then some '\x0c'
  else if c = 'r' then some '\r'
  else if c = '"' then some '"'
  else if c = '\\' then some '\\'
  else none

/-- A character put before what is read from the rest. -/
def prepend (c : Char) : Option (List Char × List Char) → Option (List Char × List Char) :=
  Option.map fun (cs, rest) => (c :: cs, rest)

/-- The text up to a double quote, with escapes. -/
def basicBody : Reader (List Char)
  | '"' :: cs => some ([], cs)
  | '\\' :: 'u' :: a :: b :: c :: d :: cs => do prepend (← codePoint? [a, b, c, d]) (basicBody cs)
  | '\\' :: 'U' :: a :: b :: c :: d :: e :: f :: g :: h :: cs => do
    prepend (← codePoint? [a, b, c, d, e, f, g, h]) (basicBody cs)
  | '\\' :: c :: cs => do prepend (← escape? c) (basicBody cs)
  | c :: cs => if isCommentChar c then prepend c (basicBody cs) else none
  | [] => none

/-- The text up to a single quote, as it stands. -/
def literalBody : Reader (List Char)
  | '\'' :: cs => some ([], cs)
  | c :: cs => if isCommentChar c then prepend c (literalBody cs) else none
  | [] => none

/-- Whether a backslash stands before the end of its line. -/
def endsLine (cs : List Char) : Bool := (skipBlanks cs).head? = some '\n'

/-- The text up to three double quotes, before which two more may stand. A backslash at the end of a
line takes away the space up to the next other character. -/
def longBasicBody (skipping : Bool) : Reader (List Char)
  | '"' :: '"' :: '"' :: '"' :: '"' :: cs => some (['"', '"'], cs)
  | '"' :: '"' :: '"' :: '"' :: cs => some (['"'], cs)
  | '"' :: '"' :: '"' :: cs => some ([], cs)
  | '\\' :: 'u' :: a :: b :: c :: d :: cs => do prepend (← codePoint? [a, b, c, d]) (longBasicBody false cs)
  | '\\' :: 'U' :: a :: b :: c :: d :: e :: f :: g :: h :: cs => do
    prepend (← codePoint? [a, b, c, d, e, f, g, h]) (longBasicBody false cs)
  | '\\' :: c :: cs =>
    if endsLine (c :: cs) then longBasicBody true cs else do prepend (← escape? c) (longBasicBody false cs)
  | c :: cs =>
    if skipping && (isBlank c || c = '\n') then longBasicBody true cs
    else if isCommentChar c || c = '\n' then prepend c (longBasicBody false cs)
    else none
  | [] => none

/-- The text up to three single quotes, before which two more may stand. -/
def longLiteralBody : Reader (List Char)
  | '\'' :: '\'' :: '\'' :: '\'' :: '\'' :: cs => some (['\'', '\''], cs)
  | '\'' :: '\'' :: '\'' :: '\'' :: cs => some (['\''], cs)
  | '\'' :: '\'' :: '\'' :: cs => some ([], cs)
  | c :: cs => if isCommentChar c || c = '\n' then prepend c (longLiteralBody cs) else none
  | [] => none

/-- The text without a line end at its start. -/
def skipLineEnd : List Char → List Char
  | '\n' :: cs => cs
  | cs => cs

/-- Reads a quoted text of one line. -/
def quoted : Reader String
  | '"' :: cs => (basicBody cs).map fun (s, rest) => (String.ofList s, rest)
  | '\'' :: cs => (literalBody cs).map fun (s, rest) => (String.ofList s, rest)
  | _ => none

/-- Reads a quoted text, which has several lines if it stands between three quotes. -/
def longQuoted : Reader String
  | '"' :: '"' :: '"' :: cs =>
    (longBasicBody false (skipLineEnd cs)).map fun (s, rest) => (String.ofList s, rest)
  | '\'' :: '\'' :: '\'' :: cs => (longLiteralBody (skipLineEnd cs)).map fun (s, rest) => (String.ofList s, rest)
  | cs => quoted cs

example : longQuoted "\"\"\"a\\\n b\"\"\"\"".toList = some ("ab\"", []) := by decide +kernel

end DirectShare.Toml
