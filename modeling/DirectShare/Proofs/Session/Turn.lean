import Mathlib
import DirectShare.Proofs.Session.Channel
import DirectShare.Session.Turn

/-!
# The steps of a turn

What each step of a turn gives: one equation for every step that senders and receivers share, by which the handlers of
both are computed. `Act.onChannel_apply`, `Act.credential_apply` and `Act.reading_apply` are no simp lemmas, since they
put a case distinction in place of the step; a proof rewrites with them where it knows the case.
-/

namespace DirectShare.Act

variable {Session Table Intent Stage α : Type} (t : Turn Session Table Intent)

/-- Emitting an intent puts it behind the others. -/
@[simp] lemma emit_apply (i : Intent) : emit i t = .ok () { t with intents := t.intents ++ [i] } := rfl

/-- Updating changes the session and nothing else. -/
@[simp] lemma update_apply (change : Session → Session) :
    update change t = .ok () { t with session := change t.session } := rfl

/-- The session is the one of the turn. -/
@[simp] lemma session_apply : session t = .ok t.session t := rfl

/-- Using random bytes is noted, and changes nothing else. -/
@[simp] lemma useRandom_apply : useRandom t = .ok () { t with usedRandom := true } := rfl

/-- A crash is noted, and changes nothing else. -/
@[simp] lemma crash_apply : crash t = .ok () { t with crashed := true } := rfl

/-- Credentials pass through, and cryptography fails as a failure of credentials. -/
lemma credential_apply (x : Except CryptoError α) :
    credential x t = match x with
      | .ok a => .ok a t
      | .error e => .error (.credential e) t := by
  cases x <;> rfl

/-- What is read passes through, and so does the failure to read it. -/
lemma reading_apply (x : Except Failure α) :
    reading x t = match x with
      | .ok a => .ok a t
      | .error e => .error e t := by
  cases x <;> rfl

variable [Staged Session Stage]

/-- Entering a stage changes the session to that stage. -/
@[simp] lemma enter_apply (stage : Stage) :
    enter stage t = .ok () { t with session := Staged.atStage stage t.session } := rfl

/-- The channel is left as its own step leaves it, whether that fails or not. -/
lemma onChannel_apply (act : EStateM Failure Channel α) :
    onChannel act t = match act (Staged.channel t.session) with
      | .ok a channel => .ok a { t with session := Staged.withChannel channel t.session }
      | .error e channel => .error e { t with session := Staged.withChannel channel t.session } := rfl

end DirectShare.Act
