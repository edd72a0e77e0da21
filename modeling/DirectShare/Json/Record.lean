import DirectShare.Json.Parser

/-!
# Records in JSON

A record is written as an object with its field names, or as an array with its fields in order, of
which the last ones may be missing. A name that is no field is passed over; a field given twice is
refused. Fields are read by `Field.required`, `Field.withDefault` and `Field.optional`.

`Json.Tree.fields?` is what a tree gives to each field of a record, and a `Json.Field` what it gives
to one. The types whose values are written as records are instances of `Json.Record`.
-/

namespace DirectShare.Json

/-- What a text gives to a field: a tree, unless the field is missing. -/
abbrev Field := Option Tree

namespace Tree

/-- What named members give to one field, which may be given once only. -/
def member? (members : List (Option String × Tree)) (name : String) : Option Field :=
  match members.filter (·.1 = some name) with
  | [] => some none
  | [(_, value)] => some (some value)
  | _ => none

/-- What a tree gives to each of the named fields, in their order. -/
def fields? (names : List String) : Tree → Option (List Field)
  | .array items =>
    if items.length ≤ names.length then
      some (items.map some ++ List.replicate (names.length - items.length) none)
    else none
  | .object members =>
    if members.all (·.1.isSome) then names.mapM (member? members) else none
  | _ => none

/-- The text that a tree stands for. -/
def string? : Tree → Option String
  | .string s => s
  | _ => none

/-- The truth value that a tree stands for. -/
def bool? : Tree → Option Bool
  | .bool b => some b
  | _ => none

/-- The whole number that a tree stands for. -/
def int? : Tree → Option Int
  | .number (some (.integer n)) => some n
  | _ => none

/-- The natural number below `bound` that a tree stands for. -/
def natBelow? (bound : Nat) (t : Tree) : Option Nat :=
  match t.int? with
  | some (.ofNat n) => if n < bound then some n else none
  | _ => none

/-- The number of 8 bits that a tree stands for. -/
def uint8? (t : Tree) : Option UInt8 := (t.natBelow? UInt8.size).map UInt8.ofNat

/-- The number of 32 bits that a tree stands for. -/
def uint32? (t : Tree) : Option UInt32 := (t.natBelow? UInt32.size).map UInt32.ofNat

/-- The number of 64 bits that a tree stands for. -/
def uint64? (t : Tree) : Option UInt64 := (t.natBelow? UInt64.size).map UInt64.ofNat

/-- The signed number of 32 bits that a tree stands for. -/
def int32? (t : Tree) : Option Int32 :=
  match t.int? with
  | some n => if -0x80000000 ≤ n ∧ n < 0x80000000 then some (Int32.ofInt n) else none
  | none => none

/-- The list that a tree stands for, when `read` reads its items. -/
def list? {α : Type} (read : Tree → Option α) : Tree → Option (List α)
  | .array items => items.mapM read
  | _ => none

end Tree

namespace Field

variable {α : Type}

/-- The value of a field that must not be missing. -/
def required (read : Tree → Option α) (f : Field) : Option α := f.bind read

/-- The value of a field that has a value of its own when it is missing. -/
def withDefault (default : α) (read : Tree → Option α) : Field → Option α
  | none => some default
  | some t => read t

/-- The value of a field that may be missing or null. -/
def optional (read : Tree → Option α) : Field → Option (Option α)
  | none => some none
  | some .null => some none
  | some t => (read t).map some

end Field

/-- Types whose values are written as records. -/
class Record (α : Type) where
  /-- The written fields of a value, in the order of the type's fields. -/
  fields : α → List (String × Json)
  /-- The value that a tree stands for. -/
  ofTree? : Tree → Option α

namespace Record

variable {α : Type} [Record α]

/-- A value as the body of a frame, with its fields sorted by name. -/
def toJson (a : α) : Json := ofFields (fields a)

/-- The value that a body stands for. -/
def ofJson? (v : Json) : Option α := ofTree? v.toTree

/-- The text of a value, with its fields in the order of the type. -/
def text (a : α) : String := (Json.object (fields a)).render

/-- The value that a text stands for. -/
def ofText? (s : String) : Option α := (Tree.ofText s).bind ofTree?

/-- The bytes of a value's text. -/
def encode (a : α) : Bytes := Utf8.encode (text a)

/-- The value that bytes stand for. -/
def ofBytes? (bs : Bytes) : Option α := (Tree.ofCharacters (Utf8.characters bs)).bind ofTree?

end Record

/-- A field that is written as null when it has no value. -/
def orNull {α : Type} (write : α → Json) : Option α → Json
  | none => .null
  | some a => write a

/-- The member for a field that is left out when it has no value. -/
def ifSome {α : Type} (name : String) (write : α → Json) : Option α → List (String × Json)
  | none => []
  | some a => [(name, write a)]

end DirectShare.Json
