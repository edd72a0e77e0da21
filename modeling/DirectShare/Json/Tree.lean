import DirectShare.Json.Token

/-!
# JSON texts as trees

A tree is a JSON text without its blanks: the members of an object are kept as they were written,
equal names included, and so are unreadable strings and numbers beyond the largest. Whether these
matter is for the reader of the tree to decide.

The tree of a token list is built in one pass over the tokens. The state of the pass holds the open
arrays and objects, innermost first, and what may come next.

`Json.Tree.ofTokens` makes that pass, and `Json.toTree` is the tree of a value.
-/

namespace DirectShare.Json

/-- A JSON text without its blanks. -/
inductive Tree where
  /-- The null value. -/
  | null
  /-- A truth value. -/
  | bool (b : Bool)
  /-- A number, or `none` beyond the largest. -/
  | number (n : Option Number)
  /-- A string, or `none` if it is unreadable. -/
  | string (s : Option String)
  /-- A sequence of values. -/
  | array (items : List Tree)
  /-- Values under names, as written. -/
  | object (members : List (Option String × Tree))
deriving Repr

namespace Tree

/-- An array or object that is still open, with the parts it has so far, last part first. -/
inductive Open where
  /-- An array and its items. -/
  | array (items : List Tree)
  /-- An object, its members, and the name that waits for its value. -/
  | object (members : List (Option String × Tree)) (name : Option String)
deriving Repr

/-- What may come next, inside the open arrays and objects. -/
inductive State where
  /-- A value. -/
  | value (around : List Open)
  /-- The first item of an array, or its end. -/
  | firstItem (around : List Open)
  /-- The first name of an object, or its end. -/
  | firstName (around : List Open)
  /-- A further name of an object that has the given members. -/
  | name (members : List (Option String × Tree)) (around : List Open)
  /-- The colon after a name. -/
  | colon (members : List (Option String × Tree)) (name : Option String) (around : List Open)
  /-- A comma or an end, after a complete value. -/
  | after (value : Tree) (around : List Open)
deriving Repr

/-- The state after a token where a value is due. -/
def startValue (around : List Open) : Token → Option State
  | .null => some (.after .null around)
  | .bool b => some (.after (.bool b) around)
  | .number n => some (.after (.number n) around)
  | .string s => some (.after (.string s) around)
  | .openArray => some (.firstItem around)
  | .openObject => some (.firstName around)
  | _ => none

/-- The state after one more token, or `none` if it may not come next. -/
def step : State → Token → Option State
  | .value around, t => startValue around t
  | .firstItem around, .closeArray => some (.after (.array []) around)
  | .firstItem around, t => startValue (.array [] :: around) t
  | .firstName around, .closeObject => some (.after (.object []) around)
  | .firstName around, .string s => some (.colon [] s around)
  | .firstName _, _ => none
  | .name members around, .string s => some (.colon members s around)
  | .name _ _, _ => none
  | .colon members name around, .colon => some (.value (.object members name :: around))
  | .colon _ _ _, _ => none
  | .after v (.array items :: around), .comma => some (.value (.array (v :: items) :: around))
  | .after v (.array items :: around), .closeArray =>
    some (.after (.array (v :: items).reverse) around)
  | .after v (.object members name :: around), .comma => some (.name ((name, v) :: members) around)
  | .after v (.object members name :: around), .closeObject =>
    some (.after (.object ((name, v) :: members).reverse) around)
  | .after _ _, _ => none

/-- The state after all tokens. -/
def run (s : State) : List Token → Option State
  | [] => some s
  | t :: rest =>
    match step s t with
    | some s' => run s' rest
    | none => none

/-- The tree that the tokens spell, if they spell exactly one value. -/
def ofTokens (tokens : List Token) : Option Tree :=
  match run (.value []) tokens with
  | some (.after v []) => some v
  | _ => none

/-- The tree of a text given by its characters. -/
def ofCharacters (cs : Token.Input) : Option Tree := (Token.scan cs).bind ofTokens

/-- The tree of a text. -/
def ofText (s : String) : Option Tree := ofCharacters (s.toList.map some)

end Tree

/-- The tree of a value. -/
def toTree : Json → Tree
  | .null => .null
  | .bool b => .bool b
  | .number n => .number (some n)
  | .string s => .string (some s)
  | .array items => .array (itemTrees items)
  | .object members => .object (memberTrees members)
where
  /-- The trees of the items. -/
  itemTrees : List Json → List Tree
    | [] => []
    | item :: rest => item.toTree :: itemTrees rest
  /-- The trees of the members. -/
  memberTrees : List (String × Json) → List (Option String × Tree)
    | [] => []
    | (name, value) :: rest => (some name, value.toTree) :: memberTrees rest

end DirectShare.Json
