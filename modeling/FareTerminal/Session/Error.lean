import FareTerminal.Card.Budget
import FareTerminal.Reader
import FareTerminal.StoredValue.Action

/-! The kinds of commands, and why an operation of a secure session fails. -/

namespace FareTerminal.Card

/-- What a command asks of a card. -/
inductive CommandKind where
  | openSession
  | readRecords
  | updateRecord
  | writeRecord
  | appendRecord
  | increase
  | decrease
  | storedValueGet
  | storedValueChange (action : StoredValue.Action)
  deriving Repr, DecidableEq

def CommandKind.name : CommandKind → String
  | openSession => "OpenSession"
  | readRecords => "ReadRecords"
  | updateRecord => "UpdateRecord"
  | writeRecord => "WriteRecord"
  | appendRecord => "AppendRecord"
  | increase => "Increase"
  | decrease => "Decrease"
  | storedValueGet => "SvGet"
  | storedValueChange .reload => "SvReload"
  | storedValueChange .debit => "SvDebit"
  | storedValueChange .undebit => "SvUndebit"

end FareTerminal.Card

namespace FareTerminal.Sam

/-- What a command asks of a security module. -/
inductive CommandKind where
  | selectDiversifier
  | getChallenge
  | digestInit
  | digestUpdate
  | digestClose
  | digestAuthenticate
  | storedValuePrepare
  | storedValueCheck
  deriving Repr, DecidableEq

def CommandKind.name : CommandKind → String
  | selectDiversifier => "Select Diversifier"
  | getChallenge => "Get Challenge"
  | digestInit => "Digest Init"
  | digestUpdate => "Digest Update"
  | digestClose => "Digest Close"
  | digestAuthenticate => "Digest Authenticate"
  | storedValuePrepare => "SV Prepare"
  | storedValueCheck => "SV Check"

end FareTerminal.Sam

namespace FareTerminal

/-- What an operation would need of the session that does not hold. -/
inductive StateFault where
  | notTerminated
  | alreadyOpened
  | notOpened
  | terminated
  | storedValueUnavailable
  | changePending
  deriving Repr, DecidableEq

/-- Which response has not the shape that its command prescribes. -/
inductive ResponseFault where
  | samChallenge (length : Nat)
  | openSession (length : Nat)
  | closeSession (length : Nat)
  | postponedData
  | signatureMissing
  | counter (length : Nat)
  | recordData
  | storedValue (length expected : Nat)
  deriving Repr, DecidableEq

/-- Why an operation of a secure session fails. -/
inductive SessionError where
  | illegalState (fault : StateFault)
  | unauthorizedVersion (kvc : UInt8)
  | fileAddress (sfi record : UInt8)
  | bufferOverflow (overflow : Card.Budget.Overflow)
  | commandRejected (command : Card.CommandKind) (status : StatusWord)
  | macNotVerified
  | closeRejected (status : StatusWord)
  | readingMissing (operation : StoredValue.Operation)
  | storedValueRefused (refusal : StoredValue.Refusal)
  | signatureRejected
  | samRejected (command : Sam.CommandKind) (status : StatusWord)
  | malformed (fault : ResponseFault)
  | reader (error : ReaderError)
  deriving Repr, DecidableEq

def StateFault.message : StateFault → String
  | notTerminated => "session not terminated"
  | alreadyOpened => "session already opened"
  | notOpened => "no secure session open"
  | terminated => "session terminated"
  | storedValueUnavailable => "stored value not available on this card"
  | changePending => "only one SV operation per secure session"

def ResponseFault.message : ResponseFault → String
  | samChallenge length => "SAM challenge of " ++ toString length ++ " bytes"
  | openSession length => "open session response of " ++ toString length ++ " bytes"
  | closeSession length => "close session response of " ++ toString length ++ " bytes"
  | postponedData => "truncated postponed data"
  | signatureMissing => "SV signature missing from postponed data"
  | counter length => "counter value of " ++ toString length ++ " bytes"
  | recordData => "truncated record in Read Records response"
  | storedValue length expected =>
    "SV Get response of " ++ toString length ++ " bytes, expected " ++ toString expected

def SessionError.message : SessionError → String
  | illegalState fault => "illegal session state: " ++ fault.message
  | unauthorizedVersion kvc => "unauthorized KVC 0x" ++ Hex.encode [kvc]
  | fileAddress sfi record =>
    "file address out of range: SFI 0x" ++ Hex.encode [sfi] ++ ", record " ++
      toString record.toNat
  | bufferOverflow overflow => overflow.message
  | commandRejected command status =>
    command.name ++ " rejected by card with status " ++ Hex.word16 status
  | macNotVerified => "session MAC verification failed"
  | closeRejected status => "close secure session rejected with status " ++ Hex.word16 status
  | readingMissing operation => "no SV Get result available for " ++ operation.name
  | storedValueRefused refusal => refusal.message
  | signatureRejected => "SV signature rejected by SAM"
  | samRejected command status =>
    "SAM rejected " ++ command.name ++ " with status " ++ Hex.word16 status
  | malformed fault => "malformed response: " ++ fault.message
  | reader error => error.message

end FareTerminal
