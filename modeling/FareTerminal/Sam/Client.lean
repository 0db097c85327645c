import FareTerminal.Apdu.SamCommand
import FareTerminal.Sam.Call

/-! A security module that is reached through a reader. -/

namespace FareTerminal.Sam

/-- A security module behind a reader. -/
structure Client (ρ : Type) where
  reader : ρ

namespace Client

variable {ρ : Type} [Reader ρ]

def challengeLength : UInt8 := 4

def signatureLength : UInt8 := 4

def exchange (command : Apdu.Command) : EStateM SessionError (Client ρ) Apdu.Response :=
  fun client =>
    match Reader.transmit command.toBytes client.reader with
    | .ok response reader => .ok response ⟨reader⟩
    | .error error reader => .error (.reader error) ⟨reader⟩

/-- The data of a response that reports success. -/
def dataOf (kind : CommandKind) (response : Apdu.Response) : Except SessionError Bytes :=
  if response.isSuccess then .ok response.data else .error (.samRejected kind response.status)

/-- Whether a response reports a right signature or a wrong one. -/
def verdictOf (kind : CommandKind) (response : Apdu.Response) : Except SessionError Bool :=
  if response.isSuccess then .ok true
  else if response.status = .incorrectSignature then .ok false
  else .error (.samRejected kind response.status)

/-- Sends a command that has to succeed. -/
def request (kind : CommandKind) (command : Apdu.Command) :
    EStateM SessionError (Client ρ) Bytes := do
  let response ← exchange command
  MonadExcept.ofExcept (dataOf kind response)

/-- Sends a command that presents a signature. -/
def verify (kind : CommandKind) (command : Apdu.Command) :
    EStateM SessionError (Client ρ) Bool := do
  let response ← exchange command
  MonadExcept.ofExcept (verdictOf kind response)

/-- The instruction byte with which a change of the stored value is prepared. -/
def prepareInstruction : StoredValue.Action → UInt8
  | .reload => 0x56
  | .debit => 0x54
  | .undebit => 0x5C

/-- Answers a question by one command, or by two to continue the digest. A challenge has to have
the length that was asked for. A change is prepared from the header of the command that read the
value, its response, and the beginning of the new command. -/
def consult : (call : Call) → EStateM SessionError (Client ρ) call.Answer
  | .selectDiversifier serial => do
    let _ ← request .selectDiversifier (.selectDiversifier serial)
  | .getChallenge => do
    let challenge ← request .getChallenge (.getChallenge challengeLength)
    if challenge.length = challengeLength.toNat then return challenge
    else throw (.malformed (.samChallenge challenge.length))
  | .beginDigest response kif kvc level => do
    let _ ← request .digestInit (.digestInit kif kvc level.keyIndex response)
  | .updateDigest command response => do
    let _ ← request .digestUpdate (.digestUpdate command)
    let _ ← request .digestUpdate (.digestUpdate response)
  | .finalizeDigest => request .digestClose (.digestClose signatureLength)
  | .verifyMac signature => verify .digestAuthenticate (.digestAuthenticate signature)
  | .prepareChange action command response data =>
    request .storedValuePrepare
      (.storedValuePrepare (prepareInstruction action) (command.take 4 ++ response ++ data))
  | .checkChange signature => verify .storedValueCheck (.storedValueCheck signature)

instance : SecurityModule (Client ρ) := ⟨consult⟩

end Client

end FareTerminal.Sam
