import FareTerminal.Key.Table
import FareTerminal.Session.Error

/-! What a terminal decides beforehand for its sessions, and how far a session has come. -/

namespace FareTerminal.Session

/-- What becomes of the rest of a batch when the card rejects a command. -/
inductive RejectionPolicy where
  | stopOnFirst
  | bestEffort
  deriving Repr, DecidableEq

/-- Keys, accepted key versions, and the two policies. -/
structure Settings where
  keys : KeyTable := .standard
  versionPolicy : VersionPolicy := keys.versionPolicy
  rejectionPolicy : RejectionPolicy := .bestEffort
  valuePolicy : StoredValue.Policy := {}
  deriving Repr, DecidableEq

namespace Settings

/-- The settings with another key table; the versions it lists become the accepted ones. -/
def withKeys (settings : Settings) (keys : KeyTable) : Settings :=
  { settings with keys, versionPolicy := keys.versionPolicy }

end Settings

inductive Outcome where
  | success
  | failure
  deriving Repr, DecidableEq

inductive Phase where
  | closed
  | opened
  | terminated (outcome : Outcome)
  deriving Repr, DecidableEq

def Phase.isTerminated : Phase → Bool
  | terminated _ => true
  | closed | opened => false

/-- The stage of a session and what is known of it: level and ratification once it is open, the
budget, the first failure, and what the card rejected. -/
structure State where
  phase : Phase := .closed
  level : Option AccessLevel := none
  ratified : Option Bool := none
  budget : Card.Budget
  lastError : Option SessionError := none
  rejections : List SessionError := []
  deriving Repr, DecidableEq

namespace State

/-- The state with a failure noted, unless one was noted before. -/
def noteError (state : State) (error : SessionError) : State :=
  { state with lastError := state.lastError.or (some error) }

/-- The state of a session that has failed. -/
def fail (state : State) (error : SessionError) : State :=
  { state.noteError error with phase := .terminated .failure }

/-- The state after a rejection by the card, which counts only within a session. -/
def reject (state : State) (error : SessionError) : State :=
  if state.phase = .opened then
    { state.noteError error with rejections := state.rejections ++ [error] }
  else state

/-- The state of a session that has just been opened. -/
def opened (state : State) (level : AccessLevel) (ratified : Bool) : State :=
  { state with
    phase := .opened, level := some level, ratified := some ratified, budget := state.budget.reset }

@[simp] theorem phase_noteError (state : State) (error : SessionError) :
    (state.noteError error).phase = state.phase := rfl

@[simp] theorem phase_fail (state : State) (error : SessionError) :
    (state.fail error).phase = .terminated .failure := rfl

@[simp] theorem phase_reject (state : State) (error : SessionError) :
    (state.reject error).phase = state.phase := by
  unfold reject
  split <;> rfl

end State

end FareTerminal.Session
