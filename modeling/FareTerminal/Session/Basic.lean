import FareTerminal.Card.Identity
import FareTerminal.Session.FileCommand
import FareTerminal.Session.State
import FareTerminal.StoredValue.Reading
import FareTerminal.Terminal

/-! A secure session on a terminal, and the steps of which its operations are made. An operation
that fails keeps what it had done up to then. -/

namespace FareTerminal

/-- A session with one card: what it runs on, what is known of the card, what was decided
beforehand, and what has come of it. The last reading of the stored value waits for the change it
was made for; after a change the card still owes its signature. -/
structure Session (τ : Type) where
  terminal : τ
  identity : Card.Identity
  settings : Session.Settings
  state : Session.State
  lastBatch : List Session.CommandResult := []
  reading : Option StoredValue.Reading := none
  signaturePending : Bool := false

/-- A computation on a session. -/
abbrev SessionM (τ : Type) := EStateM SessionError (Session τ)

namespace Session

variable {τ : Type}

/-- A session with a card, not opened yet. -/
def new (terminal : τ) (identity : Card.Identity) (settings : Settings) : Session τ :=
  { terminal, identity, settings, state := { budget := identity.budget } }

/-- Whether a session that has ended was successful. -/
def isSuccessful (session : Session τ) : Except SessionError Bool :=
  match session.state.phase with
  | .terminated outcome => .ok (outcome == .success)
  | .closed | .opened => .error (.illegalState .notTerminated)

/-- How a computation ends: with its outcome, and the session that it leaves. -/
def ending {α : Type} (outcome : Except SessionError α) (session : Session τ) :
    EStateM.Result SessionError (Session τ) α :=
  match outcome with
  | .ok a => .ok a session
  | .error error => .error error session

@[simp] theorem ending_ok {α : Type} (a : α) (session : Session τ) :
    ending (.ok a) session = .ok a session := rfl

@[simp] theorem ending_error {α : Type} (error : SessionError) (session : Session τ) :
    ending (.error error : Except SessionError α) session = .error error session := rfl

@[simp] theorem run_throw {α : Type} (error : SessionError) (session : Session τ) :
    (throw error : SessionM τ α).run session = .error error session := rfl

@[simp] theorem run_ofExcept {α : Type} (outcome : Except SessionError α) (session : Session τ) :
    (MonadExcept.ofExcept outcome : SessionM τ α).run session = ending outcome session := by
  cases outcome <;> rfl

@[simp] theorem run_map {α β : Type} (f : α → β) (work : SessionM τ α) (session : Session τ) :
    (f <$> work).run session =
      match work.run session with
      | .ok a session => .ok (f a) session
      | .error error session => .error error session := by
  change EStateM.map f work session = _
  unfold EStateM.map EStateM.run
  cases work session <;> rfl

@[simp] theorem run_tryCatch {α : Type} (work : SessionM τ α) (handler : SessionError → SessionM τ α)
    (session : Session τ) :
    (tryCatch work handler).run session =
      match work.run session with
      | .ok a session => .ok a session
      | .error error session => (handler error).run session := by
  change EStateM.tryCatch work handler session = _
  unfold EStateM.tryCatch EStateM.run
  cases work session <;> rfl

def modifyState (change : State → State) : SessionM τ Unit :=
  modify fun session => { session with state := change session.state }

@[simp] theorem run_modifyState (change : State → State) (session : Session τ) :
    (modifyState change).run session = .ok () { session with state := change session.state } := rfl

/-- Works on the terminal only. -/
def onTerminal {ε α : Type} (wrap : ε → SessionError) (work : EStateM ε τ α) : SessionM τ α :=
  fun session =>
    match work session.terminal with
    | .ok a terminal => .ok a { session with terminal }
    | .error error terminal => .error (wrap error) { session with terminal }

/-- How a session reaches the card and the security module. It sees the whole session, so that what
is said can be written down with the phase in which it was said. -/
class Link (τ : Type) where
  /-- Asks the security module. -/
  consult : (call : Sam.Call) → SessionM τ call.Answer
  /-- Sends a command to the card. -/
  exchange : Apdu.Command → SessionM τ Apdu.Response

export Link (consult exchange)

instance [Terminal τ] : Link τ where
  consult call := onTerminal id (Terminal.consult call)
  exchange command := onTerminal .reader (Terminal.transmit command.toBytes)

/-- Ends the session as failed. -/
def abort {α : Type} (error : SessionError) : SessionM τ α := do
  modifyState (·.fail error)
  throw error

/-- Lets any failure end the session. -/
def orAbort {α : Type} (work : SessionM τ α) : SessionM τ α := tryCatch work abort

@[simp] theorem run_orAbort {α : Type} (work : SessionM τ α) (session : Session τ) :
    (orAbort work).run session =
      match work.run session with
      | .ok a session => .ok a session
      | .error error session => .error error { session with state := session.state.fail error } := by
  rw [orAbort, run_tryCatch]
  cases work.run session <;> rfl

/-- Lets a failure end the session if it is open; otherwise there is nothing to end. -/
def orAbortOpened {α : Type} (work : SessionM τ α) : SessionM τ α :=
  tryCatch work fun error => do
    if (← get).state.phase = .opened then abort error else throw error

@[simp] theorem run_orAbortOpened {α : Type} (work : SessionM τ α) (session : Session τ) :
    (orAbortOpened work).run session =
      match work.run session with
      | .ok a session => .ok a session
      | .error error session => .error error
          (if session.state.phase = .opened then { session with state := session.state.fail error }
          else session) := by
  rw [orAbortOpened, run_tryCatch]
  cases work.run session with
  | ok a session => rfl
  | error error session =>
    by_cases opened : session.state.phase = .opened <;> simp [opened, abort]

def rejection (kind : Card.CommandKind) (response : Apdu.Response) : SessionError :=
  .commandRejected kind response.status

def require (condition : Bool) (error : SessionError) : SessionM τ Unit :=
  if condition then pure () else throw error

@[simp] theorem run_require (condition : Bool) (error : SessionError) (session : Session τ) :
    (require condition error).run session =
      if condition then .ok () session else .error error session := by
  cases condition <;> rfl

def requirePhase (phase : Phase) (fault : StateFault) : SessionM τ Unit := do
  require ((← get).state.phase = phase) (.illegalState fault)

/-- Exchanges a command and continues the digest with the bytes that went both ways. -/
def exchangeDigested [Link τ] (command : Apdu.Command) : SessionM τ Apdu.Response := do
  let response ← exchange command
  consult (.updateDigest command.toBytes response.toBytes)
  return response

end Session

end FareTerminal
