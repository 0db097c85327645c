import FareTerminal.Proofs.Session.Overflow

/-! What the results of a batch say of it. They belong to its commands one by one: those of the commands
that were sent say what the card has answered, and the others were never sent. -/

namespace FareTerminal.Session

variable {τ : Type}

/-- A command of a batch that was sent, what the card answered, and the result that comes of it: what
the command makes of the data, or the status with which the card has rejected it. -/
structure Sent where
  command : FileCommand
  response : Apdu.Response
  result : CommandResult
  told : if response.isSuccess then command.decode response.data = .ok result
    else result = .rejected response.status

/-- What is said for a command that is sent: it goes to the card once, and into the digest. -/
def Sent.events (cla : UInt8) (sent : Sent) : List Event :=
  let command := (sent.command.toCommand cla).toBytes
  [.card command (.ok sent.response), .sam (.updateDigest command sent.response.toBytes) (.ok ())]

namespace Sent

end Sent

namespace Sending

variable {cla : UInt8} {policy : RejectionPolicy} {commands : List FileCommand} {said : List Event}
  {results : List CommandResult} {phase : Phase}

end Sending

end FareTerminal.Session
