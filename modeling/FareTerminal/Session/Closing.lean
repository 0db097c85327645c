import FareTerminal.Session.Basic
import FareTerminal.Session.CloseResponse

/-! Closing a session. The security module decides whether it was successful. -/

namespace FareTerminal.Session

variable {τ : Type}

/-- Whether the terminal ratifies the session by a command of its own, or leaves that to whatever
the card sees next. -/
inductive Ratification where
  | implicit
  | explicit
  deriving Repr, DecidableEq

def readClosing (response : Apdu.Response) : Except SessionError CloseResponse :=
  if response.isSuccess then
    if response.data.length < CloseResponse.signatureLength then
      .error (.malformed (.closeSession response.data.length))
    else
      let split := response.data.length - CloseResponse.signatureLength
      match CloseResponse.items? (response.data.take split) with
      | some postponed => .ok { postponed, signature := response.data.drop split }
      | none => .error (.malformed .postponedData)
  else .error (.closeRejected response.status)

/-- Ratifies the session. The card answers with an error in any case, so neither the answer nor a
failure of the reader says anything. -/
def ratify [Link τ] (ratification : Ratification) : SessionM τ Unit := do
  if ratification = .explicit then
    try
      let _ ← exchange (.ratification (← get).identity.classByte)
    catch _ => pure ()

/-- Has the signature of a change of the stored value checked; the card gives it as its first
postponed item. -/
def checkPostponed [Link τ] (postponed : List Bytes) : SessionM τ Unit := do
  match postponed with
  | [] => throw (.malformed .signatureMissing)
  | signature :: _ => require (← consult (.checkChange signature)) .signatureRejected

/-- Has the signature checked that the card still owes for a change, if it owes one. -/
def checkOwed [Link τ] (postponed : List Bytes) : SessionM τ Unit := do
  if (← get).signaturePending then
    modify fun session => { session with signaturePending := false }
    checkPostponed postponed

/-- Fails with the first failure that was noted, if there is one. -/
def requireFaultless : SessionM τ Unit := do
  match (← get).state.lastError with
  | some error => throw error
  | none => pure ()

/-- Exchanges the signatures of both sides and has the card's checked. -/
def concludeSession [Link τ] (ratification : Ratification) : SessionM τ Unit := do
  let cla := (← get).identity.classByte
  let mac ← consult .finalizeDigest
  let response ← exchange (.closeSession cla (ratification == .explicit) mac)
  let closing ← MonadExcept.ofExcept (readClosing response)
  ratify ratification
  require (← consult (.verifyMac closing.signature)) .macNotVerified
  checkOwed closing.postponed
  requireFaultless

/-- Closes the session. It is successful if the card accepts the closing, the security module
verifies the card's signatures, and the card rejected nothing on the way. -/
def closeSession [Link τ] (ratification : Ratification) : SessionM τ Unit := do
  requirePhase .opened .notOpened
  orAbort (concludeSession ratification)
  modifyState ({ · with phase := .terminated .success })

end FareTerminal.Session
