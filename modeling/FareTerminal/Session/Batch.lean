import FareTerminal.Session.Basic

/-! Batches of commands within an open session.

A modifying command is charged to the budget before it is sent. One that does not fit ends the
batch and leaves the session open, so that what was applied can still be closed. -/

namespace FareTerminal.Session

variable {τ : Type}

/-- Fails on the first file identifier that is out of range. -/
def checkAddresses : List FileCommand → Except SessionError Unit
  | [] => .ok ()
  | command :: rest => do
    command.checkAddress
    checkAddresses rest

/-- Charges a command to the budget if it is modifying. -/
def charge (command : FileCommand) : SessionM τ Unit := do
  if command.isModifying then
    let session ← get
    let length := (command.toCommand session.identity.classByte).lc
    match session.state.budget.charge (UInt64.ofNat length) with
    | .ok budget => modifyState ({ · with budget })
    | .error overflow => throw (.bufferOverflow overflow)

/-- Sends a command and decodes what comes back; a rejection is noted and is a result too. -/
def carryOut [Link τ] (command : FileCommand) : SessionM τ CommandResult := do
  let response ← exchangeDigested (command.toCommand (← get).identity.classByte)
  if response.isSuccess then
    MonadExcept.ofExcept (command.decode response.data)
  else
    modifyState (·.reject (rejection command.kind response))
    return .rejected response.status

/-- Puts results at the end of those of the batch. -/
def report (results : List CommandResult) : SessionM τ Unit :=
  modify fun session => { session with lastBatch := session.lastBatch ++ results }

/-- Whether a result ends the batch. -/
def stopsBatch (policy : RejectionPolicy) : CommandResult → Bool
  | .rejected _ => policy == .stopOnFirst
  | .records _ | .counter _ | .applied | .skipped => false

/-- Sends one command after the other; behind a rejection that ends the batch, all are skipped. -/
def sendAll [Link τ] : List FileCommand → SessionM τ Unit
  | [] => pure ()
  | command :: rest => do
    charge command
    let result ← orAbort (carryOut command)
    report [result]
    if stopsBatch (← get).settings.rejectionPolicy result then
      report (rest.map fun _ => .skipped)
    else
      sendAll rest

/-- Carries out a batch and returns a result for each command. No command is sent if any file
identifier is out of range. -/
def batch [Link τ] (commands : List FileCommand) : SessionM τ (List CommandResult) := do
  requirePhase .opened .notOpened
  MonadExcept.ofExcept (checkAddresses commands)
  modify fun session => { session with lastBatch := [] }
  sendAll commands
  return (← get).lastBatch

end FareTerminal.Session
