import FareTerminal.Bytes.BigEndian

/-! The logs that a card keeps of its last reload and its last debit. -/

namespace FareTerminal.StoredValue

open BigEndian

structure LoadLog where
  date : UInt16
  time : UInt16
  free : UInt8 × UInt8
  kvc : UInt8
  balance : Int32
  amount : Int32
  samId : UInt32
  samTransaction : UInt32
  transaction : UInt16
  deriving Repr, DecidableEq

structure DebitLog where
  amount : Int32
  date : UInt16
  time : UInt16
  kvc : UInt8
  samId : UInt32
  samTransaction : UInt32
  balance : Int32
  transaction : UInt16
  deriving Repr, DecidableEq

/-- Reads a reload: date, free byte, key version, free byte, balance, amount, time, security module
and its transaction number, transaction number. -/
def LoadLog.ofBytes? : Bytes → Option LoadLog
  | [d₁, d₂, f₁, kvc, f₂, b₁, b₂, b₃, a₁, a₂, a₃, t₁, t₂, s₁, s₂, s₃, s₄, m₁, m₂, m₃, n₁, n₂] =>
    some
      { date := word16 [d₁, d₂], free := (f₁, f₂), kvc, balance := signed [b₁, b₂, b₃]
        amount := signed [a₁, a₂, a₃], time := word16 [t₁, t₂], samId := unsigned [s₁, s₂, s₃, s₄]
        samTransaction := unsigned [m₁, m₂, m₃], transaction := word16 [n₁, n₂] }
  | _ => none

/-- Reads a debit: amount, date, time, key version, security module and its transaction number,
balance, transaction number. -/
def DebitLog.ofBytes? : Bytes → Option DebitLog
  | [a₁, a₂, d₁, d₂, t₁, t₂, kvc, s₁, s₂, s₃, s₄, m₁, m₂, m₃, b₁, b₂, b₃, n₁, n₂] =>
    some
      { amount := signed [a₁, a₂], date := word16 [d₁, d₂], time := word16 [t₁, t₂], kvc
        samId := unsigned [s₁, s₂, s₃, s₄], samTransaction := unsigned [m₁, m₂, m₃]
        balance := signed [b₁, b₂, b₃], transaction := word16 [n₁, n₂] }
  | _ => none

/-- Writes a reload as the card sends it. -/
def LoadLog.toBytes (log : LoadLog) : Bytes :=
  encode16 log.date ++ [log.free.1, log.kvc, log.free.2] ++ encodeSigned 3 log.balance ++
    encodeSigned 3 log.amount ++ encode16 log.time ++ encode 4 log.samId.toNat ++
    encode 3 log.samTransaction.toNat ++ encode16 log.transaction

/-- Writes a debit as the card sends it. -/
def DebitLog.toBytes (log : DebitLog) : Bytes :=
  encodeSigned 2 log.amount ++ encode16 log.date ++ encode16 log.time ++ [log.kvc] ++
    encode 4 log.samId.toNat ++ encode 3 log.samTransaction.toNat ++ encodeSigned 3 log.balance ++
    encode16 log.transaction

@[simp] theorem LoadLog.length_toBytes (log : LoadLog) : log.toBytes.length = 22 := by
  simp [LoadLog.toBytes]

@[simp] theorem DebitLog.length_toBytes (log : DebitLog) : log.toBytes.length = 19 := by
  simp [DebitLog.toBytes]

end FareTerminal.StoredValue
