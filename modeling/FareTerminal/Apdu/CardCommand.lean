import FareTerminal.Apdu.Command
import FareTerminal.Bytes.BigEndian
import FareTerminal.Card.Revision

/-! The commands a card understands.

A file is addressed by its short identifier in the top five bits of P2; a larger identifier loses
its high bits. -/

namespace FareTerminal.Apdu.Command

/-- Selects an application by its name. -/
def select (name : Bytes) : Command :=
  { cla := 0x00, ins := 0xA4, p1 := 0x04, p2 := 0x00, data := name, le := some 0x00 }

/-- Opens a secure session, reading one record with it. Revision 3 sets a flag in P2 and puts a zero
byte before the challenge, revision 2.4 sets a flag in P1, revision 1 does neither. -/
def openSession (revision : Card.Revision) (cla keyIndex sfi record : UInt8) (challenge : Bytes) :
    Command :=
  let p1 := record <<< 3 ||| keyIndex
  let p2 := sfi <<< 3
  match revision with
  | .rev1 => { cla, ins := 0x8A, p1, p2, data := challenge, le := some 0x00 }
  | .rev24 => { cla, ins := 0x8A, p1 := 0x80 ||| p1, p2, data := challenge, le := some 0x00 }
  | .rev31 | .rev31Clap | .rev32 =>
    { cla, ins := 0x8A, p1, p2 := p2 ||| 0x01, data := 0x00 :: challenge, le := some 0x00 }

/-- Closes the secure session with the signature of the terminal. -/
def closeSession (cla : UInt8) (ratify : Bool) (signature : Bytes) : Command :=
  { cla, ins := 0x8E, p1 := if ratify then 0x80 else 0x00, p2 := 0x00, data := signature,
    le := some 0x00 }

/-- Ratifies the session that was just closed. -/
def ratification (cla : UInt8) : Command :=
  { cla, ins := 0xB2, p1 := 0x00, p2 := 0x00, le := some 0x00 }

/-- Reads one record, or all from the given one on as far as the response holds them. -/
def readRecords (cla sfi record : UInt8) (multiple : Bool) (expected : UInt8) : Command :=
  { cla, ins := 0xB2, p1 := record, p2 := sfi <<< 3 ||| if multiple then 0x05 else 0x04,
    le := some expected }

/-- Replaces a record. -/
def updateRecord (cla sfi record : UInt8) (data : Bytes) : Command :=
  { cla, ins := 0xDC, p1 := record, p2 := sfi <<< 3 ||| 0x04, data }

/-- Sets further bits of a record. -/
def writeRecord (cla sfi record : UInt8) (data : Bytes) : Command :=
  { cla, ins := 0xD2, p1 := record, p2 := sfi <<< 3 ||| 0x04, data }

/-- Adds a record to a cyclic file. -/
def appendRecord (cla sfi : UInt8) (data : Bytes) : Command :=
  { cla, ins := 0xE2, p1 := 0x00, p2 := sfi <<< 3, data }

/-- Increases a counter by the low three bytes of an amount. -/
def increase (cla sfi counter : UInt8) (amount : UInt32) : Command :=
  { cla, ins := 0x32, p1 := counter, p2 := sfi <<< 3, data := BigEndian.encode 3 amount.toNat,
    le := some 0x00 }

/-- Decreases a counter by the low three bytes of an amount. -/
def decrease (cla sfi counter : UInt8) (amount : UInt32) : Command :=
  { cla, ins := 0x30, p1 := counter, p2 := sfi <<< 3, data := BigEndian.encode 3 amount.toNat,
    le := some 0x00 }

/-- Asks for the stored value, for a reload or else for a debit. -/
def storedValueGet (cla : UInt8) (reload : Bool) : Command :=
  { cla, ins := 0x7C, p1 := 0x00, p2 := if reload then 0x07 else 0x09, le := some 0x00 }

/-- Changes the stored value; the instruction says how. -/
def storedValueChange (cla ins : UInt8) (data : Bytes) : Command :=
  { cla, ins, p1 := 0x00, p2 := 0x00, data, le := some 0x00 }

end FareTerminal.Apdu.Command
