import DirectShare.Text.Inspect

/-!
# Actions

The three things that one side of the handshake asks of the other. On the wire an action is known by
its name, whose letters may be of either case; each has a number as well.

`Action.ofName?` finds an action by its name, and `Action.ofCode?` by its number.
-/

namespace DirectShare

/-- What one side of the handshake asks of the other. -/
inductive Action where
  /-- To agree on a protocol version and on encryption. -/
  | versionNegotiation
  /-- To take a task. -/
  | sendRequest
  /-- To note how a task ended. -/
  | status
deriving DecidableEq, Repr

namespace Action

/-- Every action. -/
def all : List Action := [.versionNegotiation, .sendRequest, .status]

/-- The name of an action on the wire. -/
def name : Action → String
  | .versionNegotiation => "versionNegotiation"
  | .sendRequest => "sendRequest"
  | .status => "status"

/-- The number of an action. -/
def code : Action → Nat
  | .versionNegotiation => 0
  | .sendRequest => 1
  | .status => 99

/-- The characters of a name with its ASCII letters in lower case. -/
def foldCase (cs : List Char) : List Char := cs.map Char.toLower

/-- The action with a name, whose ASCII letters may be of either case. -/
def ofName? (cs : List Char) : Option Action :=
  all.find? fun a => foldCase a.name.toList = foldCase cs

/-- The action with a number. -/
def ofCode? (n : Nat) : Option Action := all.find? fun a => a.code = n

/-- An action is found by its name. -/
theorem ofName?_name (a : Action) : ofName? a.name.toList = some a := by
  cases a <;> decide +kernel

instance : Inspect Action where
  inspect
    | .versionNegotiation => "VersionNegotiation"
    | .sendRequest => "SendRequest"
    | .status => "Status"

end Action

end DirectShare
