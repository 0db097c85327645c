import FareTerminal.Session.Closing
import FareTerminal.Session.Opening
import FareTerminal.Session.ValueChange

/-! The operations of a session as data, and runs of them. -/

namespace FareTerminal.Session

variable {τ : Type}

/-- What can be asked of a session. -/
inductive Operation where
  | openSession (level : AccessLevel) (reads : List RecordAddress)
  | batch (commands : List FileCommand)
  | closeSession (ratification : Ratification)
  | readValue (operation : StoredValue.Operation) (bothLogs : Bool)
  | changeValue (change : StoredValue.Change)
  deriving Repr, DecidableEq

inductive Answer where
  | results (results : List CommandResult)
  | reading (reading : StoredValue.Reading)
  | done
  deriving Repr, DecidableEq

def perform [Link τ] : Operation → SessionM τ Answer
  | .openSession level reads => return .results (← openSession level reads)
  | .batch commands => return .results (← batch commands)
  | .closeSession ratification => do
    closeSession ratification
    return .done
  | .readValue operation bothLogs => return .reading (← readValue operation bothLogs)
  | .changeValue change => do
    changeValue change
    return .done

/-- The session after an operation, whether it failed or not. -/
def after [Link τ] (session : Session τ) (operation : Operation) : Session τ :=
  match (perform operation).run session with
  | .ok _ session => session
  | .error _ session => session

/-- The session after a list of operations. -/
def run [Link τ] (session : Session τ) (operations : List Operation) : Session τ :=
  operations.foldl after session

@[simp] theorem run_nil [Link τ] (session : Session τ) : run session [] = session := rfl

@[simp] theorem run_cons [Link τ] (session : Session τ) (operation : Operation)
    (rest : List Operation) : run session (operation :: rest) = run (after session operation) rest :=
  rfl

theorem run_append [Link τ] (session : Session τ) (operations more : List Operation) :
    session.run (operations ++ more) = (session.run operations).run more :=
  List.foldl_append

end FareTerminal.Session
