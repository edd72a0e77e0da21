import DirectShare.Json.Basic
import DirectShare.Text.Inspect

/-!
# The shape of a JSON value as text

Each value is shown with its kind; the members of an object stand in braces after their quoted names.
-/

namespace DirectShare.Json

/-- The text that shows the shape of a value. -/
def shape : Json → String
  | .null => "Null"
  | .bool b => Inspect.variant "Bool" (inspect b)
  | .number n => Inspect.variant "Number" (String.ofList n.chars)
  | .string s => Inspect.variant "String" (inspect s)
  | .array items => "Array " ++ Inspect.sequence (itemShapes items)
  | .object members => "Object \x7b" ++ ", ".intercalate (memberShapes members) ++ "\x7d"
where
  /-- The texts of the items. -/
  itemShapes : List Json → List String
    | [] => []
    | item :: rest => item.shape :: itemShapes rest
  /-- The texts of the members. -/
  memberShapes : List (String × Json) → List String
    | [] => []
    | (name, value) :: rest => (inspect name ++ ": " ++ value.shape) :: memberShapes rest

instance : Inspect Json := ⟨shape⟩

end DirectShare.Json
