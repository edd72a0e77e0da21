import DirectShare.Toml.Entry

/-!
# TOML documents

A document is a sequence of sections: the lines before the first header, and each header with the
lines after it. A table has one header at most, which may follow those of tables inside it.

`Toml.parse` reads the lines into sections (`Toml.Section`), and puts them into one table in their
order.
-/

namespace DirectShare.Toml

/-- A header with the entries after it. -/
structure Section where
  /-- The name of the table, which has no parts before the first header. -/
  name : List String
  /-- Whether the table is one of a sequence. -/
  isElement : Bool
  /-- The entries in their order. -/
  entries : List (List String × Value)

/-- The lines grouped into sections, after the section that is read. -/
def sections (current : Section) : List Line → List Section
  | [] => [current]
  | .entry name value :: rest => sections { current with entries := current.entries ++ [(name, value)] } rest
  | .table name :: rest => current :: sections ⟨name, false, []⟩ rest
  | .element name :: rest => current :: sections ⟨name, true, []⟩ rest

/-- What a header starts with in its outer table: a table on the way to an earlier one keeps its
members, and no other table may have been there. -/
def startMembers (isElement : Bool) : Option Value → Option Members
  | none => some []
  | some (.tables _) => if isElement then some [] else none
  | some (.table .implied ms) => if isElement then none else some ms
  | some _ => none

/-- The value of a section with the given members, after what was under its name. -/
def sectionValue (isElement : Bool) (ms : Members) : Option Value → Value
  | some (.tables elements) => if isElement then .tables (elements ++ [ms]) else .table .header ms
  | _ => if isElement then .tables [ms] else .table .header ms

/-- Adds a section to the table of the document. -/
def addSection (root : Members) (s : Section) : Option Members :=
  match s.name.getLast? with
  | none => s.entries.foldlM addEntry root
  | some name => do
    let outer ← membersAt s.name.dropLast root
    let start ← startMembers s.isElement (outer.lookup name)
    let ms ← s.entries.foldlM addEntry start
    modifyAt false (fun _ outer => some (put name (sectionValue s.isElement ms (outer.lookup name)) outer))
      s.name.dropLast .header root

/-- The characters of a document without the mark that may stand before them. -/
def dropMark : List Char → List Char
  | '\ufeff' :: cs => cs
  | cs => cs

/-- The table of a document. -/
def parse (s : String) : Option Members := do
  let ls ← lines (joinLines (dropMark s.toList))
  (sections ⟨[], false, []⟩ ls).foldlM addSection []

end DirectShare.Toml
