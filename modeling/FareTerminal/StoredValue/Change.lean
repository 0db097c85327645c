import FareTerminal.StoredValue.Action
import FareTerminal.Bytes.BigEndian

/-! A change of the stored value, and the part of its command that the terminal knows. -/

namespace FareTerminal.StoredValue

open BigEndian

/-- An action with its amount and what the card is to log about it. -/
inductive Change where
  | reload (amount : Int32) (date time : UInt16) (free : UInt8 × UInt8)
  | debit (amount : Int32) (date time : UInt16)
  | undebit (amount : Int32) (date time : UInt16)
  deriving Repr, DecidableEq

namespace Change

def action : Change → Action
  | reload .. => .reload
  | debit .. => .debit
  | undebit .. => .undebit

def amount : Change → Int32
  | reload amount .. | debit amount .. | undebit amount .. => amount

/-- Date, free byte, key version, free byte, amount and time of a reload. -/
def reloadData (kvc : UInt8) (amount : Int32) (date time : UInt16) (free : UInt8 × UInt8) : Bytes :=
  encode16 date ++ [free.1, kvc, free.2] ++ encodeSigned 3 amount ++ encode16 time

/-- Amount, date, time and key version of a debit or of its reversal. -/
def debitData (kvc : UInt8) (amount : Int32) (date time : UInt16) : Bytes :=
  encodeSigned 2 amount ++ encode16 date ++ encode16 time ++ [kvc]

/-- The beginning of the command's data, for the key version that the card told. -/
def data (kvc : UInt8) : Change → Bytes
  | reload amount date time free => reloadData kvc amount date time free
  | debit amount date time | undebit amount date time => debitData kvc amount date time

def instruction : Action → UInt8
  | .reload => 0xB8
  | .debit => 0xBA
  | .undebit => 0xBC

end Change

end FareTerminal.StoredValue
