import DirectShare.Toml.Number

/-!
# The lines of a TOML document

A line gives a value to a dotted name, or heads a table. Values may stand in brackets and braces, at
most 79 deep, and a dotted name has at most 79 parts.

`Toml.value` reads a value, and `Toml.lines` cuts a text into lines, each of which is a `Toml.Line`.
-/

namespace DirectShare.Toml

/-- The greatest depth of values and of dotted names. -/
def maxDepth : Nat := 79

/-- Reads one item or more with a separator between them. -/
def separated {α : Type} (item : Reader α) (separator : Char) (cs : List Char) : Option (List α × List Char) :=
  match item cs with
  | none => none
  | some (a, []) => some ([a], [])
  | some (a, c :: rest) =>
    if c = separator then
      if rest.length < cs.length then (separated item separator rest).map fun (as, rest) => (a :: as, rest)
      else none
    else some ([a], c :: rest)
termination_by cs.length

/-! ### Names -/

/-- Whether a character may stand in a name without quotes. -/
def isNameChar (c : Char) : Bool := c.isAlphanum || c = '_' || c = '-'

/-- Reads a name that has one part. -/
def simpleName : Reader String := fun cs =>
  if cs.head? = some '"' ∨ cs.head? = some '\'' then quoted cs
  else if cs.takeWhile isNameChar = [] then none
  else some (String.ofList (cs.takeWhile isNameChar), cs.dropWhile isNameChar)

/-- Reads a part of a name, with the blanks around it. -/
def namePart : Reader String := fun cs =>
  (simpleName (skipBlanks cs)).map fun (name, rest) => (name, skipBlanks rest)

/-- Reads a dotted name. -/
def dottedName : Reader (List String) := fun cs => do
  let (names, rest) ← separated namePart '.' cs
  if names.length ≤ maxDepth then some (names, rest) else none

/-! ### Values -/

/-- Reads the items of a bracket, after which a comma may stand, up to the end of the bracket. -/
def items (value : Reader Value) (cs : List Char) : Option (List Value × List Char) :=
  match skipSpace false cs with
  | ']' :: rest => some ([], rest)
  | start =>
    match value start with
    | none => none
    | some (v, rest) =>
      match skipSpace false rest with
      | ']' :: rest => some ([v], rest)
      | ',' :: rest =>
        if rest.length < cs.length then (items value rest).map fun (vs, rest) => (v :: vs, rest) else none
      | _ => none
termination_by cs.length

/-- Reads a dotted name and its value. -/
def entry (value : Reader Value) : Reader (List String × Value) := fun cs => do
  let (name, rest) ← dottedName cs
  match rest with
  | '=' :: rest =>
    let (v, rest) ← value (skipBlanks rest)
    return ((name, v), skipBlanks rest)
  | _ => none

/-- Adds a value under a dotted name. -/
def addEntry (ms : Members) : List String × Value → Option Members
  | (path, value) => path.getLast?.bind fun name => add path.dropLast name value ms

/-- Reads the members of a brace, up to the end of the brace. -/
def members (value : Reader Value) : Reader Members := fun cs =>
  match skipBlanks cs with
  | '\x7d' :: rest => some ([], rest)
  | start => do
    let (entries, rest) ← separated (entry value) ',' start
    match rest with
    | '\x7d' :: rest => return (← entries.foldlM addEntry [], rest)
    | _ => none

/-- Reads a value with at most the given number of brackets and braces around its innermost one. -/
def value : (depth : Nat) → Reader Value
  | _, '"' :: cs => (longQuoted ('"' :: cs)).map fun (s, rest) => (.string s, rest)
  | _, '\'' :: cs => (longQuoted ('\'' :: cs)).map fun (s, rest) => (.string s, rest)
  | 0, '[' :: _ => none
  | 0, '\x7b' :: _ => none
  | depth + 1, '[' :: cs => (items (value depth) cs).map fun (vs, rest) => (.array vs, rest)
  | depth + 1, '\x7b' :: cs => (members (value depth) cs).map fun (ms, rest) => (.table .inline ms, rest)
  | _, cs => bare cs

/-! ### Lines -/

/-- A line of a document. -/
inductive Line where
  /-- A value under a dotted name. -/
  | entry (name : List String) (value : Value)
  /-- The header of a table. -/
  | table (name : List String)
  /-- The header of one of a sequence of tables. -/
  | element (name : List String)

/-- Reads a line that is neither empty nor a comment, up to the start of the next one. -/
def line : Reader Line
  | '[' :: '[' :: cs => do
    let (name, rest) ← dottedName cs
    match rest with
    | ']' :: ']' :: rest => return (.element name, ← endLine rest)
    | _ => none
  | '[' :: cs => do
    let (name, rest) ← dottedName cs
    match rest with
    | ']' :: rest => return (.table name, ← endLine rest)
    | _ => none
  | cs => do
    let ((name, v), rest) ← entry (value maxDepth) cs
    return (.entry name v, ← endLine rest)

/-- The lines of a text. -/
def lines (cs : List Char) : Option (List Line) :=
  match skipBlanks cs with
  | [] => some []
  | c :: start =>
    if c = '\n' ∨ c = '#' then
      match endLine (c :: start) with
      | none => none
      | some rest => if rest.length < cs.length then lines rest else none
    else
      match line (c :: start) with
      | none => none
      | some (l, rest) => if rest.length < cs.length then (lines rest).map (l :: ·) else none
termination_by cs.length

end DirectShare.Toml
