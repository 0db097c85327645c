import FareTerminal.StoredValue.Action
import FareTerminal.StoredValue.Log

/-! What a card answers when its stored value is read. -/

namespace FareTerminal.StoredValue

open BigEndian

/-- The balance and the logs of a card, with the command and the response that told them: the
security module needs both to prepare a change. -/
structure Reading where
  operation : Operation
  kvc : UInt8
  transaction : UInt16
  previousSignature : UInt8 × UInt8 × UInt8
  challenge : UInt8 × UInt8
  balance : Int32
  loadLog : Option LoadLog
  debitLog : Option DebitLog
  command : Bytes
  response : Bytes
  deriving Repr, DecidableEq

namespace Reading

def expectedLength : Operation → Nat
  | .reload => 33
  | .debit => 30

/-- Reads the log for an operation from the end of the response. -/
def logs? (operation : Operation) (bytes : Bytes) : Option (Option LoadLog × Option DebitLog) :=
  match operation with
  | .reload => (LoadLog.ofBytes? bytes).map fun log => (some log, none)
  | .debit => (DebitLog.ofBytes? bytes).map fun log => (none, some log)

/-- Reads the response for an operation: key version, transaction number, end of the previous
signature, challenge, balance, log. -/
def ofResponse? (operation : Operation) (command response : Bytes) : Option Reading :=
  match response with
  | kvc :: n₁ :: n₂ :: p₁ :: p₂ :: p₃ :: c₁ :: c₂ :: b₁ :: b₂ :: b₃ :: log =>
    (logs? operation log).map fun (loadLog, debitLog) =>
      { operation, kvc, transaction := word16 [n₁, n₂], previousSignature := (p₁, p₂, p₃)
        challenge := (c₁, c₂), balance := signed [b₁, b₂, b₃], loadLog, debitLog, command, response }
  | _ => none

/-- Writes the part of the response before the log. -/
def headBytes (reading : Reading) : Bytes :=
  [reading.kvc] ++ encode16 reading.transaction ++
    [reading.previousSignature.1, reading.previousSignature.2.1, reading.previousSignature.2.2,
     reading.challenge.1, reading.challenge.2] ++ encodeSigned 3 reading.balance

/-- Writes the response that tells the reading: the head, and whatever logs there are. -/
def toBytes (reading : Reading) : Bytes :=
  reading.headBytes ++ (reading.loadLog.map LoadLog.toBytes).getD [] ++
    (reading.debitLog.map DebitLog.toBytes).getD []

/-- Amount, date and time of the last change of the kind that was read for. -/
def lastEntry? (reading : Reading) : Option (Int32 × UInt16 × UInt16) :=
  match reading.operation with
  | .reload => reading.loadLog.map fun log => (log.amount, log.date, log.time)
  | .debit => reading.debitLog.map fun log => (log.amount, log.date, log.time)

/-- The reading with the logs of another one where it has none itself. -/
def withLogsOf (reading other : Reading) : Reading :=
  { reading with
    loadLog := reading.loadLog.or other.loadLog
    debitLog := reading.debitLog.or other.debitLog }

end Reading

end FareTerminal.StoredValue
