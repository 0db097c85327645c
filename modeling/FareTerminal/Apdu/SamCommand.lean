import FareTerminal.Apdu.Command

/-! The commands a security module understands. -/

namespace FareTerminal.Apdu.Command

def samClass : UInt8 := 0x80

/-- Derives the keys of the card with the given serial number. -/
def selectDiversifier (serial : Bytes) : Command :=
  { cla := samClass, ins := 0x14, p1 := 0x00, p2 := 0x00, data := serial }

def getChallenge (length : UInt8) : Command :=
  { cla := samClass, ins := 0x84, p1 := 0x00, p2 := 0x00, le := some length }

/-- Begins the digest of a session with the response that opened it. The key is given by identifier
and version before the response, or, where no identifier is known, by its number in P2; the
identifier FF stands for none. -/
def digestInit (kif : Option UInt8) (kvc keyIndex : UInt8) (response : Bytes) : Command :=
  match kif.filter (· ≠ 0xFF) with
  | some kif =>
    { cla := samClass, ins := 0x8A, p1 := 0x00, p2 := 0xFF, data := kif :: kvc :: response }
  | none => { cla := samClass, ins := 0x8A, p1 := 0x00, p2 := keyIndex, data := response }

/-- Continues the digest with one command or response. -/
def digestUpdate (data : Bytes) : Command :=
  { cla := samClass, ins := 0x8C, p1 := 0x00, p2 := 0x00, data }

/-- Ends the digest and asks for the signature of the terminal. -/
def digestClose (length : UInt8) : Command :=
  { cla := samClass, ins := 0x8E, p1 := 0x00, p2 := 0x00, le := some length }

/-- Presents the signature of the card. -/
def digestAuthenticate (signature : Bytes) : Command :=
  { cla := samClass, ins := 0x82, p1 := 0x00, p2 := 0x00, data := signature }

/-- Prepares a change of the stored value; the instruction says which. -/
def storedValuePrepare (ins : UInt8) (data : Bytes) : Command :=
  { cla := samClass, ins, p1 := 0x01, p2 := 0xFF, data }

/-- Presents the card's signature of a change of the stored value. -/
def storedValueCheck (signature : Bytes) : Command :=
  { cla := samClass, ins := 0x58, p1 := 0x00, p2 := 0x00, data := signature }

end FareTerminal.Apdu.Command
