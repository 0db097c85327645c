import FareTerminal.Apdu.CardCommand
import FareTerminal.Session.Error
import FareTerminal.Session.Records

/-! Commands on the files of a card, and what comes of them within a session. -/

namespace FareTerminal.Session

/-- A command on the file with a short identifier. -/
inductive FileCommand where
  | readRecords (sfi record : UInt8) (multiple : Bool) (expected : UInt8)
  | updateRecord (sfi record : UInt8) (data : Bytes)
  | writeRecord (sfi record : UInt8) (data : Bytes)
  | appendRecord (sfi : UInt8) (data : Bytes)
  | increase (sfi counter : UInt8) (amount : UInt32)
  | decrease (sfi counter : UInt8) (amount : UInt32)
  deriving Repr, DecidableEq

/-- What came of a command of a batch. -/
inductive CommandResult where
  | records (records : List Record)
  | counter (value : UInt32)
  | applied
  | rejected (status : StatusWord)
  | skipped
  deriving Repr, DecidableEq

def maxSfi : UInt8 := 30

/-- The highest number of a record that can be read with the opening. -/
def maxOpenRecord : UInt8 := 31

namespace FileCommand

def readRecord (sfi record : UInt8) : FileCommand := readRecords sfi record false 0

def kind : FileCommand → Card.CommandKind
  | readRecords .. => .readRecords
  | updateRecord .. => .updateRecord
  | writeRecord .. => .writeRecord
  | appendRecord .. => .appendRecord
  | increase .. => .increase
  | decrease .. => .decrease

def sfi : FileCommand → UInt8
  | readRecords sfi .. | updateRecord sfi .. | writeRecord sfi .. | appendRecord sfi _
  | increase sfi .. | decrease sfi .. => sfi

/-- The record that is named when the address is refused; counters and new records have none. -/
def record : FileCommand → UInt8
  | readRecords _ record .. | updateRecord _ record _ | writeRecord _ record _ => record
  | appendRecord .. | increase .. | decrease .. => 0

/-- Whether the command changes the card, and so counts against the budget. -/
def isModifying : FileCommand → Bool
  | readRecords .. => false
  | updateRecord .. | writeRecord .. | appendRecord .. | increase .. | decrease .. => true

/-- The command for a card with the given class byte. -/
def toCommand (cla : UInt8) : FileCommand → Apdu.Command
  | readRecords sfi record multiple expected => .readRecords cla sfi record multiple expected
  | updateRecord sfi record data => .updateRecord cla sfi record data
  | writeRecord sfi record data => .writeRecord cla sfi record data
  | appendRecord sfi data => .appendRecord cla sfi data
  | increase sfi counter amount => .increase cla sfi counter amount
  | decrease sfi counter amount => .decrease cla sfi counter amount

/-- Refuses a file identifier that has no room in P2. -/
def checkAddress (command : FileCommand) : Except SessionError Unit :=
  if maxSfi < command.sfi then .error (.fileAddress command.sfi command.record) else .ok ()

/-- The new value of a counter, three bytes. -/
def decodeCounter (data : Bytes) : Except SessionError CommandResult :=
  if data.length = 3 then .ok (.counter (BigEndian.unsigned data))
  else .error (.malformed (.counter data.length))

/-- What the data of a successful response says. -/
def decode (data : Bytes) : FileCommand → Except SessionError CommandResult
  | readRecords _ record false _ => .ok (.records [(record, data)])
  | readRecords _ _ true _ =>
    match Records.decode? data with
    | some records => .ok (.records records)
    | none => .error (.malformed .recordData)
  | updateRecord .. | writeRecord .. | appendRecord .. => .ok .applied
  | increase .. | decrease .. => decodeCounter data

end FileCommand

end FareTerminal.Session
