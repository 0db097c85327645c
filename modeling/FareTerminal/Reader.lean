import FareTerminal.Apdu.Response

/-! The channel to a card or to a security module, one that answers from a list written beforehand, and
one that keeps what was sent through it and what came back. -/

namespace FareTerminal

/-- Why a command got no response. The smart card service of the host has its own words for what it
reports. -/
inductive ReaderError where
  | service (report : String)
  | cardAbsent
  | responseTooShort (length : Nat)
  deriving Repr, DecidableEq

def ReaderError.message : ReaderError → String
  | service report => "PC/SC error: " ++ report
  | cardAbsent => "no card present in reader"
  | responseTooShort length =>
    "response too short: " ++ toString length ++ " bytes, status word missing"

/-- A channel takes one command at a time and answers it. A failure leaves behind what the channel
has become. -/
class Reader (ρ : Type) where
  transmit : Bytes → EStateM ReaderError ρ Apdu.Response

def Reader.receive (raw : Bytes) : Except ReaderError Apdu.Response :=
  match Apdu.Response.ofBytes? raw with
  | some response => .ok response
  | none => .error (.responseTooShort raw.length)

end FareTerminal

namespace FareTerminal

/-- The answers still to give, and the commands received, in order. -/
structure Script where
  answers : List (Except ReaderError Bytes)
  received : List Bytes := []

namespace Script

/-- The answer to the next command; past the end there is no card any more. -/
def answer : List (Except ReaderError Bytes) → Except ReaderError Apdu.Response
  | [] => .error .cardAbsent
  | .ok raw :: _ => Reader.receive raw
  | .error error :: _ => .error error

/-- Takes one answer for the command, also where it is a failure. -/
def transmit (command : Bytes) : EStateM ReaderError Script Apdu.Response := fun script =>
  let rest := { answers := script.answers.tail, received := script.received ++ [command] }
  match answer script.answers with
  | .ok response => .ok response rest
  | .error error => .error error rest

instance : Reader Script := ⟨transmit⟩

end Script

end FareTerminal

namespace FareTerminal

/-- A reader and its exchanges so far, in order. -/
structure Recorded (ρ : Type) where
  reader : ρ
  exchanges : List (Bytes × Except ReaderError Apdu.Response) := []

namespace Recorded

variable {ρ : Type} [Reader ρ]

/-- Sends a command and writes the exchange down. -/
def transmit (command : Bytes) : EStateM ReaderError (Recorded ρ) Apdu.Response := fun recorded =>
  match Reader.transmit command recorded.reader with
  | .ok response reader =>
    .ok response ⟨reader, recorded.exchanges ++ [(command, .ok response)]⟩
  | .error error reader =>
    .error error ⟨reader, recorded.exchanges ++ [(command, .error error)]⟩

instance : Reader (Recorded ρ) := ⟨transmit⟩

end Recorded

end FareTerminal
