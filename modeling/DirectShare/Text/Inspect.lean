import DirectShare.Text.Quoted

/-!
# The shape of a value as text

Reports of an event that came at the wrong time show the event and the state it came in. A text is
shown quoted, a list in brackets, a record with its field names in braces, and a variant with its
arguments in parentheses.

Types whose values have such a text are instances of `Inspect`; `Inspect.record` and
`Inspect.variant` make the texts of records and of variants.
-/

namespace DirectShare

/-- Types whose values have a text that shows their shape. -/
class Inspect (α : Type) where
  /-- The text that shows the shape of a value. -/
  inspect : α → String

export Inspect (inspect)

namespace Inspect

/-- The text of a record with the given name, field names and texts of its fields. -/
def record (name : String) (fields : List (String × String)) : String :=
  name ++ " \x7b " ++ ", ".intercalate (fields.map fun (field, value) => field ++ ": " ++ value) ++ " \x7d"

/-- The text of a variant with the given name and text of its argument. -/
def variant (name value : String) : String := name ++ "(" ++ value ++ ")"

/-- The text of a sequence. -/
def sequence (items : List String) : String := "[" ++ ", ".intercalate items ++ "]"

instance : Inspect String := ⟨Text.quote⟩

instance : Inspect Bool := ⟨fun b => if b then "true" else "false"⟩

instance : Inspect UInt8 := ⟨fun n => n.toNat.repr⟩

instance : Inspect UInt16 := ⟨fun n => n.toNat.repr⟩

instance : Inspect UInt32 := ⟨fun n => n.toNat.repr⟩

instance : Inspect UInt64 := ⟨fun n => n.toNat.repr⟩

instance : Inspect Int32 := ⟨fun n => toString n.toInt⟩

instance {α : Type} [Inspect α] : Inspect (List α) := ⟨fun as => sequence (as.map inspect)⟩

instance {α : Type} [Inspect α] : Inspect (Option α) where
  inspect
    | none => "None"
    | some a => variant "Some" (inspect a)

instance {ε α : Type} [Inspect ε] [Inspect α] : Inspect (Except ε α) where
  inspect
    | .ok a => variant "Ok" (inspect a)
    | .error e => variant "Err" (inspect e)

end Inspect

end DirectShare
