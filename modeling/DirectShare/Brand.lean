/-!
# Brands

The maker of a device is known by a number. Most makers own a range of numbers, and report the
first of them.

`Brand.ofId` takes a number to the maker that owns it, and `Brand.id` gives the number that a maker
reports.
-/

namespace DirectShare

/-- The maker of a device. -/
inductive Brand where
  /-- A maker without a number. -/
  | unknown
  /-- Number 10. -/
  | oppo
  /-- Number 11. -/
  | realme
  /-- Numbers 20 to 29. -/
  | vivo
  /-- Numbers 30 to 39. -/
  | xiaomi
  /-- Numbers 41 to 45. -/
  | onePlus
  /-- Numbers 50 to 59. -/
  | meizu
  /-- Numbers 70 to 75. -/
  | samsung
  /-- Numbers 100 to 109. -/
  | lenovo
  /-- Number 200, for computers. -/
  | linux
deriving DecidableEq, Repr

namespace Brand

/-- Every brand. -/
def all : List Brand :=
  [.unknown, .oppo, .realme, .vivo, .xiaomi, .onePlus, .meizu, .samsung, .lenovo, .linux]

/-- The number that a brand reports. -/
def id : Brand → UInt8
  | .unknown => 0
  | .oppo => 10
  | .realme => 11
  | .vivo => 20
  | .xiaomi => 30
  | .onePlus => 41
  | .meizu => 50
  | .samsung => 70
  | .lenovo => 100
  | .linux => 200

/-- The last number that a brand owns. -/
def lastId : Brand → UInt8
  | .unknown => 0
  | .oppo => 10
  | .realme => 11
  | .vivo => 29
  | .xiaomi => 39
  | .onePlus => 45
  | .meizu => 59
  | .samsung => 75
  | .lenovo => 109
  | .linux => 200

/-- The brand that owns a number. -/
def ofId (n : UInt8) : Brand := (all.find? fun b => b.id ≤ n ∧ n ≤ b.lastId).getD .unknown

/-- The name of a brand for people. -/
def name : Brand → String
  | .unknown => "Unknown"
  | .oppo => "OPPO"
  | .realme => "realme"
  | .vivo => "vivo"
  | .xiaomi => "Xiaomi"
  | .onePlus => "OnePlus"
  | .meizu => "Meizu"
  | .samsung => "Samsung"
  | .lenovo => "Lenovo"
  | .linux => "Linux"

/-- The word for a brand in settings. -/
def word : Brand → String
  | .unknown => "Unknown"
  | .oppo => "Oppo"
  | .realme => "Realme"
  | .vivo => "Vivo"
  | .xiaomi => "Xiaomi"
  | .onePlus => "OnePlus"
  | .meizu => "Meizu"
  | .samsung => "Samsung"
  | .lenovo => "Lenovo"
  | .linux => "Linux"

/-- The brand with a word. -/
def ofWord? (s : String) : Option Brand := all.find? fun b => b.word = s

/-- A maker is known by the number that it reports. -/
@[simp] theorem ofId_id (b : Brand) : ofId b.id = b := by
  cases b <;> rfl

/-- A maker is known by its word. -/
@[simp] theorem ofWord?_word (b : Brand) : ofWord? b.word = some b := by
  cases b <;> decide +kernel

end Brand

end DirectShare
