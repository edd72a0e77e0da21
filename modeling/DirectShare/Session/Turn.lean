import DirectShare.Session.Channel

/-!
# Turns

A turn is what a session makes of one event. Senders and receivers take their turns in the same steps: they change
their session, enter another stage, let their channel do something, and tell their caller what they intend. A step
that fails keeps what was done before it.
-/

namespace DirectShare

/-- What a session makes of one event. -/
structure Turn (Session Table Intent : Type) where
  session : Session
  /-- The table of tasks, which is nothing for a receiver. -/
  table : Table := by exact ()
  /-- The intents in their order. -/
  intents : List Intent := []
  /-- Whether the random bytes were used. -/
  usedRandom : Bool := false
  /-- Whether the call has crashed, so that it never returns. -/
  crashed : Bool := false

/-- Steps of a turn, which keep what was done before a failure. -/
abbrev Act (Session Table Intent : Type) := EStateM Failure (Turn Session Table Intent)

/-- Sessions have a stage, and a channel to the other side. -/
class Staged (Session : Type) (Stage : outParam Type) where
  stage : Session → Stage
  /-- The session at another stage. -/
  atStage : Stage → Session → Session
  channel : Session → Channel
  /-- The session with another channel. -/
  withChannel : Channel → Session → Session

namespace Act

variable {Session Table Intent Stage α : Type}

/-- Adds an intent. -/
def emit (i : Intent) : Act Session Table Intent Unit := modify fun t => { t with intents := t.intents ++ [i] }

/-- Changes the session. -/
def update (change : Session → Session) : Act Session Table Intent Unit :=
  modify fun t => { t with session := change t.session }

/-- The session. -/
def session : Act Session Table Intent Session := return (← get).session

/-- Notes that the random bytes were used. -/
def useRandom : Act Session Table Intent Unit := modify fun t => { t with usedRandom := true }

/-- Crashes. Nothing of the turn may come after it. -/
def crash : Act Session Table Intent Unit := modify fun t => { t with crashed := true }

/-- Fails with a failure of credentials where cryptography fails. -/
def credential : Except CryptoError α → Act Session Table Intent α
  | .ok a => return a
  | .error e => throw (.credential e)

/-- Fails where reading fails. -/
def reading : Except Failure α → Act Session Table Intent α
  | .ok a => return a
  | .error e => throw e

variable [Staged Session Stage]

/-- Goes on to a stage. -/
def enter (stage : Stage) : Act Session Table Intent Unit := update (Staged.atStage stage)

/-- Lets the channel do something. -/
def onChannel (act : EStateM Failure Channel α) : Act Session Table Intent α := fun t =>
  match act (Staged.channel t.session) with
  | .ok a channel => .ok a { t with session := Staged.withChannel channel t.session }
  | .error e channel => .error e { t with session := Staged.withChannel channel t.session }

/-- Fails because something came at the wrong time. -/
def refuse {β : Type} [Inspect β] [Inspect Stage] (what : β) : Act Session Table Intent Unit := do
  throw (.unexpected (inspect what) (inspect (Staged.stage (← session))))

end Act

end DirectShare
