import DirectShare.Json.Tree
import DirectShare.Text.Utf8

/-!
# Reading JSON values

A value is read from a tree that has at most 127 arrays and objects around its innermost value and
in which every string is readable and every number within the largest. The members of an object are
sorted by name, and the last of equal names wins.

`Json.Tree.value?` gives the value of a tree, and `Json.parse` and `Json.parseBytes` that of a text
and of its bytes.
-/

namespace DirectShare.Json

/-- The greatest number of arrays and objects around a value. -/
def maxLevels : Nat := 127

/-- The value of a tree with at most the given number of levels. -/
def Tree.value? (levels : Nat) : Tree → Option Json
  | .null => some .null
  | .bool b => some (.bool b)
  | .number n => n.map .number
  | .string s => s.map .string
  | .array items =>
    match levels with
    | 0 => none
    | levels + 1 => (items? levels items).map .array
  | .object members =>
    match levels with
    | 0 => none
    | levels + 1 => (members? levels members).map ofFields
where
  /-- The values of the items. -/
  items? (levels : Nat) : List Tree → Option (List Json)
    | [] => some []
    | item :: rest =>
      match item.value? levels, items? levels rest with
      | some v, some vs => some (v :: vs)
      | _, _ => none
  /-- The values of the members, under their names. -/
  members? (levels : Nat) : List (Option String × Tree) → Option (List (String × Json))
    | [] => some []
    | (name, value) :: rest =>
      match name, value.value? levels, members? levels rest with
      | some k, some v, some vs => some ((k, v) :: vs)
      | _, _, _ => none

/-- The value of a text, or `none` if it is no JSON text or nested too deep. -/
def parse (s : String) : Option Json := (Tree.ofText s).bind (Tree.value? maxLevels)

/-- The value of a text given by its bytes. -/
def parseBytes (bs : Bytes) : Option Json := (Utf8.decode bs).bind parse

end DirectShare.Json
