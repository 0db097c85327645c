import FareTerminal.Session.Basic
import FareTerminal.StoredValue.Change

/-! Reading and changing the stored value, within a session or outside of one. A change uses up the
reading before it. -/

namespace FareTerminal.Session

variable {τ : Type}

/-- Fails after the end of the session, and with a card that stores no value. -/
def requireStoredValue : SessionM τ Unit := do
  let session ← get
  require (!session.state.phase.isTerminated) (.illegalState .terminated)
  require session.identity.capabilities.storedValue (.illegalState .storedValueUnavailable)

/-- Exchanges a command, as part of the digest if the session is open. -/
def exchangeValue [Link τ] (command : Apdu.Command) : SessionM τ Apdu.Response :=
  orAbortOpened do
    if (← get).state.phase = .opened then exchangeDigested command else exchange command

/-- Fails if the card rejected a command. -/
def requireAccepted (kind : Card.CommandKind) (response : Apdu.Response) : SessionM τ Unit := do
  unless response.isSuccess do
    modifyState (·.reject (rejection kind response))
    throw (rejection kind response)

/-- The command that reads the value for an operation. -/
def readingCommand (cla : UInt8) (operation : StoredValue.Operation) : Apdu.Command :=
  .storedValueGet cla (operation == .reload)

/-- What the response to a reading says. -/
def readReading (operation : StoredValue.Operation) (command : Apdu.Command)
    (response : Apdu.Response) : Except SessionError StoredValue.Reading :=
  match StoredValue.Reading.ofResponse? operation command.toBytes response.data with
  | some reading => .ok reading
  | none => .error (.malformed (.storedValue response.data.length
      (StoredValue.Reading.expectedLength operation)))

/-- Reads the value and the log for an operation. -/
def fetchReading [Link τ] (operation : StoredValue.Operation) :
    SessionM τ StoredValue.Reading := do
  let command := readingCommand (← get).identity.classByte operation
  let response ← exchangeValue command
  requireAccepted .storedValueGet response
  orAbortOpened (MonadExcept.ofExcept (readReading operation command response))

/-- Reads the value for an operation and keeps the reading for the change that follows. If both
logs are wanted, the value is read for the other operation first. -/
def readValue [Link τ] (operation : StoredValue.Operation) (bothLogs : Bool) :
    SessionM τ StoredValue.Reading := do
  requireStoredValue
  let reading ←
    if bothLogs then do
      let other ← fetchReading operation.other
      let reading ← fetchReading operation
      pure (reading.withLogsOf other)
    else fetchReading operation
  modify fun session => { session with reading := some reading }
  return reading

/-- The reading for a change, if there is one for its operation and the amount is within the
limits. -/
def usableReading (policy : StoredValue.Policy) (reading : Option StoredValue.Reading)
    (change : StoredValue.Change) : Except SessionError StoredValue.Reading :=
  match reading.filter (·.operation = change.action.operation) with
  | none => .error (.readingMissing change.action.operation)
  | some reading =>
    match policy.check change.action reading.balance change.amount with
    | .ok () => .ok reading
    | .error refusal => .error (.storedValueRefused refusal)

/-- The command for a change: what the terminal knows of it, and the security module's complement. -/
def changeCommand (cla : UInt8) (change : StoredValue.Change) (kvc : UInt8) (complement : Bytes) :
    Apdu.Command :=
  .storedValueChange cla (StoredValue.Change.instruction change.action)
    (change.data kvc ++ complement)

/-- Changes the value. Within a session the card's signature comes at the closing; otherwise it
stands in the response and is checked at once. -/
def changeValue [Link τ] (change : StoredValue.Change) : SessionM τ Unit := do
  requireStoredValue
  let session ← get
  require (!session.signaturePending) (.illegalState .changePending)
  let reading ← MonadExcept.ofExcept
    (usableReading session.settings.valuePolicy session.reading change)
  modify fun session => { session with reading := none }
  let complement ← orAbortOpened
    (consult (.prepareChange change.action reading.command reading.response
      (change.data reading.kvc)))
  let response ← exchangeValue
    (changeCommand session.identity.classByte change reading.kvc complement)
  requireAccepted (.storedValueChange change.action) response
  if (← get).state.phase = .opened then
    modify fun session => { session with signaturePending := true }
  else
    require (← consult (.checkChange response.data)) .signatureRejected

end FareTerminal.Session
