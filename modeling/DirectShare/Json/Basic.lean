import DirectShare.Decimal.Shortest
import DirectShare.Text.Quoted

/-!
# JSON values

The payloads of the handshake are JSON. A number is a whole number of 64 bits where it was written
as one that fits, and a binary number otherwise. The members of an object stand in a list.

`Json.ofFields` makes an object with sorted names, in which the last of equal names wins.
`Json.render` is the compact text of a value, and `Json.levels` tells how deep its arrays and
objects are nested.
-/

namespace DirectShare

/-- A number in a JSON text. -/
inductive Json.Number where
  /-- A whole number, from `-2 ^ 63` to `2 ^ 64 - 1`. -/
  | integer (n : Int)
  /-- Any other number. -/
  | double (x : Binary64)
deriving DecidableEq, Repr

/-- A JSON value. -/
inductive Json where
  /-- The null value. -/
  | null
  /-- A truth value. -/
  | bool (b : Bool)
  /-- A number. -/
  | number (n : Json.Number)
  /-- A text. -/
  | string (s : String)
  /-- A sequence of values. -/
  | array (items : List Json)
  /-- Values under names. -/
  | object (members : List (String × Json))
deriving BEq, Repr

namespace Json

/-- The whole number as a value. -/
def ofInt (n : Int) : Json := .number (.integer n)

/-- The natural number as a value. -/
def ofNat (n : Nat) : Json := .number (.integer n)

/-- Puts a value under a name into members sorted by name, in place of an earlier value. -/
def insert (name : String) (value : Json) : List (String × Json) → List (String × Json)
  | [] => [(name, value)]
  | (k, v) :: rest =>
    if name < k then (name, value) :: (k, v) :: rest
    else if name = k then (name, value) :: rest
    else (k, v) :: insert name value rest

/-- The members sorted by name, of which the last of equal names wins. -/
def sortFields (fields : List (String × Json)) : List (String × Json) :=
  fields.foldl (fun members (name, value) => insert name value members) []

/-- The object with the given members, sorted by name. -/
def ofFields (fields : List (String × Json)) : Json := .object (sortFields fields)

/-! ### The text of a value -/

/-- The lower-case hexadecimal digit for a number below 16. -/
def hexDigit (n : Nat) : Char := Nat.digitChar n

/-- One character as it stands in the text of a string. -/
def escapeChar (c : Char) : List Char :=
  if c = '"' then ['\\', '"']
  else if c = '\\' then ['\\', '\\']
  else if c = '\x08' then ['\\', 'b']
  else if c = '\x0c' then ['\\', 'f']
  else if c = '\n' then ['\\', 'n']
  else if c = '\r' then ['\\', 'r']
  else if c = '\t' then ['\\', 't']
  else if c.toNat < 32 then ['\\', 'u', '0', '0', hexDigit (c.toNat / 16), hexDigit (c.toNat % 16)]
  else [c]

/-- The text of a string, with its quotes. -/
def stringChars (s : String) : List Char := '"' :: (s.toList.flatMap escapeChar ++ ['"'])

/-- The text of a whole number. -/
def intChars : Int → List Char
  | .ofNat n => Nat.toDigits 10 n
  | .negSucc n => '-' :: Nat.toDigits 10 (n + 1)

/-- The text of a number. -/
def Number.chars : Number → List Char
  | .integer n => intChars n
  | .double x => x.text.toList

/-- The characters of the compact text of a value. -/
def chars : Json → List Char
  | .null => ['n', 'u', 'l', 'l']
  | .bool true => ['t', 'r', 'u', 'e']
  | .bool false => ['f', 'a', 'l', 's', 'e']
  | .number n => n.chars
  | .string s => stringChars s
  | .array [] => ['[', ']']
  | .array (item :: rest) => '[' :: (item.chars ++ moreItems rest)
  | .object [] => ['\x7b', '\x7d']
  | .object ((name, value) :: rest) =>
    '\x7b' :: (stringChars name ++ ':' :: (value.chars ++ moreMembers rest))
where
  /-- The text after the first item of an array. -/
  moreItems : List Json → List Char
    | [] => [']']
    | item :: rest => ',' :: (item.chars ++ moreItems rest)
  /-- The text after the first member of an object. -/
  moreMembers : List (String × Json) → List Char
    | [] => ['\x7d']
    | (name, value) :: rest => ',' :: (stringChars name ++ ':' :: (value.chars ++ moreMembers rest))

/-- The compact text of a value. -/
def render (v : Json) : String := String.ofList v.chars

/-- The number of arrays and objects around the innermost value. -/
def levels : Json → Nat
  | .array items => itemLevels items + 1
  | .object members => memberLevels members + 1
  | _ => 0
where
  /-- The greatest number of levels of the items. -/
  itemLevels : List Json → Nat
    | [] => 0
    | item :: rest => max item.levels (itemLevels rest)
  /-- The greatest number of levels of the members. -/
  memberLevels : List (String × Json) → Nat
    | [] => 0
    | (_, value) :: rest => max value.levels (memberLevels rest)

end Json

end DirectShare
