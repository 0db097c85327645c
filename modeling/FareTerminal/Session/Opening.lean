import FareTerminal.Session.Batch
import FareTerminal.Session.OpenResponse

/-! Opening a session. -/

namespace FareTerminal.Session

variable {τ : Type}

/-- A file and a record in it. -/
abbrev RecordAddress := UInt8 × UInt8

/-- The record to read with the opening; number zero stands for none. -/
def firstRead (reads : List RecordAddress) : RecordAddress := reads.head?.getD (0, 0)

/-- The commands for the records that are read once the session is open. -/
def furtherReads (reads : List RecordAddress) : List FileCommand :=
  reads.tail.map fun (sfi, record) => .readRecord sfi record

/-- Refuses addresses that have no room in their commands. -/
def checkReads (reads : List RecordAddress) : Except SessionError Unit :=
  let (sfi, record) := firstRead reads
  if maxSfi < sfi ∨ maxOpenRecord < record then .error (.fileAddress sfi record)
  else checkAddresses (furtherReads reads)

/-- Reads the response to the opening and refuses a key version that is not accepted. -/
def readOpening (identity : Card.Identity) (policy : VersionPolicy) (response : Apdu.Response) :
    Except SessionError OpenResponse :=
  if response.isSuccess then
    match OpenResponse.ofData? identity.revision response.data with
    | some opening =>
      if policy.authorizes opening.kvc then .ok opening
      else .error (.unauthorizedVersion opening.kvc)
    | none => .error (.malformed (.openSession response.data.length))
  else .error (rejection .openSession response)

def openingCommand (identity : Card.Identity) (level : AccessLevel) (address : RecordAddress)
    (challenge : Bytes) : Apdu.Command :=
  .openSession identity.revision identity.classByte level.keyIndex address.1 address.2 challenge

/-- The key identifier for the digest: where the card names none, the key table does. -/
def sessionKif (settings : Settings) (level : AccessLevel) (opening : OpenResponse) :
    Option UInt8 :=
  opening.kif.or ((settings.keys.get? level).map (·.kif))

/-- Agrees on the keys of the session: derives them, takes a challenge to the card, and begins the
digest with the card's response. -/
def negotiate [Link τ] (level : AccessLevel) (address : RecordAddress) :
    SessionM τ OpenResponse := do
  let session ← get
  consult (.selectDiversifier session.identity.serial)
  let challenge ← consult .getChallenge
  let response ← exchange (openingCommand session.identity level address challenge)
  let opening ←
    MonadExcept.ofExcept (readOpening session.identity session.settings.versionPolicy response)
  consult
    (.beginDigest response.data (sessionKif session.settings level opening) opening.kvc level)
  return opening

/-- The result of the read that came with the opening; there is none if no record was asked for. -/
def firstResult (address : RecordAddress) (opening : OpenResponse) : List CommandResult :=
  if address.2 = 0 then [] else [.records [(address.2, opening.record)]]

/-- Opens the session and reads records: the first with the opening itself, the others in a batch
right behind it. -/
def openSession [Link τ] (level : AccessLevel) (reads : List RecordAddress) :
    SessionM τ (List CommandResult) := do
  requirePhase .closed .alreadyOpened
  MonadExcept.ofExcept (checkReads reads)
  let opening ← orAbort (negotiate level (firstRead reads))
  modifyState (·.opened level opening.ratified)
  let first := firstResult (firstRead reads) opening
  if reads.tail.isEmpty then
    return first
  else
    return first ++ (← batch (furtherReads reads))

end FareTerminal.Session
