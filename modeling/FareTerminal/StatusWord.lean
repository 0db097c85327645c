/-! Status words: the two bytes with which every response ends. -/

namespace FareTerminal

/-- How a card or a security module says what became of a command. -/
abbrev StatusWord := UInt16

namespace StatusWord

def success : StatusWord := 0x9000

/-- The selected application is invalidated. -/
def invalidated : StatusWord := 0x6283

/-- The signature that was presented is not the right one. -/
def incorrectSignature : StatusWord := 0x6988

def description (status : StatusWord) : String :=
  match status.toNat with
  | 0x9000 => "Successful execution"
  | 0x6283 => "Selected DF is invalidated"
  | 0x6400 => "Too many modifications in session"
  | 0x6700 => "Lc value not supported"
  | 0x6981 => "Command forbidden on this file type"
  | 0x6982 => "Security conditions not fulfilled"
  | 0x6985 => "Access forbidden"
  | 0x6986 => "Command not allowed (no current EF)"
  | 0x6988 => "Incorrect signature"
  | 0x6A82 => "File not found"
  | 0x6A83 => "Record not found"
  | 0x6B00 => "Incorrect P1 or P2"
  | 0x6D00 => "Instruction unknown"
  | 0x6E00 => "Class not supported"
  | _ => "Unknown status"

end StatusWord

end FareTerminal
