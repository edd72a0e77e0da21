import DirectShare.Decimal.Binary64

/-!
# TOML values

A TOML document is a table of values under names. Tables come about in four ways, and how a table
came about decides what may still be added to it.

A `Toml.Value` is one value and `Toml.Members` are the members of a table, each with the way in
which it came about. `Toml.modifyAt` changes the table at a path of names, and makes the tables on
the way.
-/

namespace DirectShare.Toml

/-- A binary number, infinite or none at all. -/
inductive Float where
  /-- A finite number. -/
  | finite (x : Binary64)
  /-- An infinity. -/
  | infinite (negative : Bool)
  /-- Not a number. -/
  | nan
deriving DecidableEq, Repr

/-- How a table came about. -/
inductive Origin where
  /-- Between braces, where it is complete. -/
  | inline
  /-- By a header of its own, or as the table of the document. -/
  | header
  /-- As a table on the way to that of a header. -/
  | implied
  /-- As a table on the way to a value under a dotted name. -/
  | dotted
deriving DecidableEq, Repr

/-- A TOML value. -/
inductive Value where
  /-- A text. -/
  | string (s : String)
  /-- A whole number of 64 bits. -/
  | integer (n : Int)
  /-- A binary number. -/
  | float (x : Toml.Float)
  /-- A truth value. -/
  | bool (b : Bool)
  /-- A date, a time, or both, as written. -/
  | moment (text : String)
  /-- A sequence of values between brackets. -/
  | array (items : List Value)
  /-- A sequence of tables, each under a header of its own. -/
  | tables (elements : List (List (String × Value)))
  /-- A table. -/
  | table (origin : Origin) (members : List (String × Value))
deriving Repr

/-- The members of a table, no two of one name. -/
abbrev Members := List (String × Value)

/-- Puts a value under a name, in place of an earlier one. -/
def put (name : String) (value : Value) : Members → Members
  | [] => [(name, value)]
  | (k, v) :: rest => if k = name then (name, value) :: rest else (k, v) :: put name value rest

/-- Whether a value on the way to another one can be gone through: a table between braces is
complete, and a dotted name does not lead into a table with a header. -/
def Origin.isOpen (isDotted : Bool) : Origin → Bool
  | .inline => false
  | .header => !isDotted
  | .implied | .dotted => true

/-- The members of the table that lies at a path of names, if there can be one: where there is none
yet, it has none. Of a sequence of tables the last one is meant. -/
def membersAt : (path : List String) → Members → Option Members
  | [], ms => some ms
  | k :: path, ms =>
    match ms.lookup k with
    | none => some []
    | some (.table origin inner) => if origin.isOpen false then membersAt path inner else none
    | some (.tables elements) => elements.getLast?.bind (membersAt path)
    | some _ => none

/-- Changes the members of the table that lies at a path of names, starting from a table of the given
origin. Missing tables are made. -/
def modifyAt (isDotted : Bool) (change : Origin → Members → Option Members) :
    (path : List String) → Origin → Members → Option Members
  | [], origin, ms => change origin ms
  | k :: path, _, ms =>
    match ms.lookup k with
    | none =>
      let origin := if isDotted then .dotted else .implied
      (modifyAt isDotted change path origin []).map fun inner => put k (.table origin inner) ms
    | some (.table origin inner) =>
      if origin.isOpen isDotted then
        (modifyAt isDotted change path origin inner).map fun inner => put k (.table origin inner) ms
      else none
    | some (.tables elements) =>
      match elements.getLast? with
      | none => none
      | some last =>
        (modifyAt isDotted change path .header last).map fun inner =>
          put k (.tables (elements.dropLast ++ [inner])) ms
    | some _ => none

/-- Adds a value under a dotted name, given by the names before the last and the last. The name must be
free, and the table must have come about in the same way. -/
def add (path : List String) (name : String) (value : Value) : Members → Option Members :=
  modifyAt true
    (fun origin ms =>
      if (origin = .dotted) = (path = []) ∨ (ms.lookup name).isSome then none else some (put name value ms))
    path .header

end DirectShare.Toml
