import FareTerminal.Proofs.Bytes.BigEndian
import FareTerminal.Proofs.StoredValue.Limits

/-! A change of the stored value comes back in the card's log. The card takes the terminal's part of the
command into its log, byte for byte, and adds the balance and its own numbers. What the next reading
tells of the log is the change that was asked for. -/

namespace FareTerminal.StoredValue

open BigEndian

theorem IsShort.signed_encodeSigned {n : Int32} (short : IsShort n) :
    signed (encodeSigned 3 n) = n := by
  obtain ⟨least, most⟩ := short
  have width : capacity (min 3 4) = 0x1000000 := rfl
  exact signed_encodeSigned_of_fits (by rw [width]; omega) (by rw [width]; omega)

/-- The numbers of a logged reload have room on its three-byte places. -/
structure LoadLog.Fits (log : LoadLog) : Prop where
  balance : IsShort log.balance
  amount : IsShort log.amount
  samTransaction : log.samTransaction.toNat < capacity 3

/-- The numbers of a logged debit have room on its places of two and three bytes. -/
structure DebitLog.Fits (log : DebitLog) : Prop where
  amount : -0x8000 ≤ log.amount.toInt ∧ log.amount.toInt < 0x8000
  balance : IsShort log.balance
  samTransaction : log.samTransaction.toNat < capacity 3

theorem LoadLog.ofBytes?_toBytes {log : LoadLog} (fits : log.Fits) :
    ofBytes? log.toBytes = some log := by
  have read : ofBytes? log.toBytes = some
      { date := word16 (encode16 log.date), free := log.free, kvc := log.kvc
        balance := signed (encodeSigned 3 log.balance)
        amount := signed (encodeSigned 3 log.amount), time := word16 (encode16 log.time)
        samId := unsigned (encode 4 log.samId.toNat)
        samTransaction := unsigned (encode 3 log.samTransaction.toNat)
        transaction := word16 (encode16 log.transaction) } := rfl
  rw [read, word16_encode16, word16_encode16, word16_encode16, fits.balance.signed_encodeSigned,
    fits.amount.signed_encodeSigned, unsigned_encode_of_fits log.samId.toNat_lt,
    unsigned_encode_of_fits fits.samTransaction]

theorem DebitLog.ofBytes?_toBytes {log : DebitLog} (fits : log.Fits) :
    ofBytes? log.toBytes = some log := by
  have read : ofBytes? log.toBytes = some
      { amount := signed (encodeSigned 2 log.amount), date := word16 (encode16 log.date)
        time := word16 (encode16 log.time), kvc := log.kvc
        samId := unsigned (encode 4 log.samId.toNat)
        samTransaction := unsigned (encode 3 log.samTransaction.toNat)
        balance := signed (encodeSigned 3 log.balance)
        transaction := word16 (encode16 log.transaction) } := rfl
  have amount : signed (encodeSigned 2 log.amount) = log.amount := by
    obtain ⟨least, most⟩ := fits.amount
    have width : capacity (min 2 4) = 0x10000 := rfl
    exact signed_encodeSigned_of_fits (by rw [width]; omega) (by rw [width]; omega)
  rw [read, word16_encode16, word16_encode16, word16_encode16, amount,
    fits.balance.signed_encodeSigned, unsigned_encode_of_fits log.samId.toNat_lt,
    unsigned_encode_of_fits fits.samTransaction]

namespace Reading

theorem logs?_load {log : LoadLog} (fits : log.Fits) :
    logs? .reload log.toBytes = some (some log, none) := by
  rw [logs?, LoadLog.ofBytes?_toBytes fits, Option.map_some]

theorem logs?_debit {log : DebitLog} (fits : log.Fits) :
    logs? .debit log.toBytes = some (none, some log) := by
  rw [logs?, DebitLog.ofBytes?_toBytes fits, Option.map_some]

/-- The head of a response is read back, and the log behind it is what `logs?` reads. -/
theorem ofResponse?_headBytes_append {told : Reading} (short : IsShort told.balance)
    (operation : Operation) (log : Bytes) :
    ofResponse? operation told.command (told.headBytes ++ log) =
      (logs? operation log).map fun (loadLog, debitLog) =>
        { told with operation, loadLog, debitLog, response := told.headBytes ++ log } := by
  have read : ofResponse? operation told.command (told.headBytes ++ log) =
      (logs? operation log).map fun (loadLog, debitLog) =>
        { told with
          operation, loadLog, debitLog, response := told.headBytes ++ log
          transaction := word16 (encode16 told.transaction)
          balance := signed (encodeSigned 3 told.balance) } := rfl
  rw [read, word16_encode16, short.signed_encodeSigned]

end Reading

/-- What a card and the security module add to a change when it is logged. -/
structure Stamp where
  balance : Int32
  samId : UInt32
  samTransaction : UInt32
  transaction : UInt16
  deriving Repr, DecidableEq

namespace Stamp

/-- The balance and the security module's transaction number have three bytes. -/
structure Fits (stamp : Stamp) : Prop where
  balance : IsShort stamp.balance
  samTransaction : stamp.samTransaction.toNat < capacity 3

def samBytes (stamp : Stamp) : Bytes :=
  encode 4 stamp.samId.toNat ++ encode 3 stamp.samTransaction.toNat

def loadLog (stamp : Stamp) (kvc : UInt8) (amount : Int32) (date time : UInt16)
    (free : UInt8 × UInt8) : LoadLog :=
  { stamp with kvc, amount, date, time, free }

def debitLog (stamp : Stamp) (kvc : UInt8) (amount : Int32) (date time : UInt16) : DebitLog :=
  { stamp with kvc, amount, date, time }

variable {stamp : Stamp} {amount : Int32}

theorem Fits.loadLog (fits : stamp.Fits) (allowed : Action.reload.Allows amount.toInt)
    (kvc : UInt8) (date time : UInt16) (free : UInt8 × UInt8) :
    (stamp.loadLog kvc amount date time free).Fits where
  balance := fits.balance
  amount := ⟨allowed.1, Int.lt_add_one_of_le allowed.2⟩
  samTransaction := fits.samTransaction

theorem Fits.debitLog (fits : stamp.Fits) (allowed : Action.debit.Allows amount.toInt)
    (kvc : UInt8) (date time : UInt16) : (stamp.debitLog kvc amount date time).Fits where
  amount := ⟨Int.le_trans (by decide) allowed.1, Int.lt_add_one_of_le allowed.2⟩
  balance := fits.balance
  samTransaction := fits.samTransaction

end Stamp

namespace Change

def date : Change → UInt16
  | reload _ date .. | debit _ date _ | undebit _ date _ => date

def time : Change → UInt16
  | reload _ _ time _ | debit _ _ time | undebit _ _ time => time

/-- The log that a card makes of a change. Of a reload, the balance goes between the first five bytes of
the terminal's data and the others; of any other change it goes behind all of them. -/
def logBytes (kvc : UInt8) (stamp : Stamp) (change : Change) : Bytes :=
  match change.action.operation with
  | .reload =>
    (change.data kvc).take 5 ++ encodeSigned 3 stamp.balance ++ (change.data kvc).drop 5 ++
      stamp.samBytes ++ encode16 stamp.transaction
  | .debit =>
    change.data kvc ++ stamp.samBytes ++ encodeSigned 3 stamp.balance ++
      encode16 stamp.transaction

section

variable (kvc : UInt8) (stamp : Stamp) (amount : Int32) (date time : UInt16)

theorem logBytes_reload (free : UInt8 × UInt8) :
    (reload amount date time free).logBytes kvc stamp =
      (stamp.loadLog kvc amount date time free).toBytes := rfl

theorem logBytes_debit :
    (debit amount date time).logBytes kvc stamp =
      (stamp.debitLog kvc amount date time).toBytes := rfl

theorem logBytes_undebit :
    (undebit amount date time).logBytes kvc stamp =
      (stamp.debitLog kvc amount date time).toBytes := rfl

end

/-- What the log of a reload has to tell. -/
def loadLog? (kvc : UInt8) (stamp : Stamp) : Change → Option LoadLog
  | reload amount date time free => some (stamp.loadLog kvc amount date time free)
  | debit .. | undebit .. => none

/-- What the log of a debit or of its reversal has to tell. -/
def debitLog? (kvc : UInt8) (stamp : Stamp) : Change → Option DebitLog
  | reload .. => none
  | debit amount date time | undebit amount date time =>
    some (stamp.debitLog kvc amount date time)

theorem logs?_logBytes {change : Change} {stamp : Stamp} (kvc : UInt8)
    (allowed : change.action.Allows change.amount.toInt) (fits : stamp.Fits) :
    Reading.logs? change.action.operation (change.logBytes kvc stamp) =
      some (change.loadLog? kvc stamp, change.debitLog? kvc stamp) := by
  cases change with
  | reload amount date time free =>
    rw [logBytes_reload]
    exact Reading.logs?_load (fits.loadLog allowed kvc date time free)
  | debit amount date time =>
    rw [logBytes_debit]
    exact Reading.logs?_debit (fits.debitLog allowed kvc date time)
  | undebit amount date time =>
    rw [logBytes_undebit]
    exact Reading.logs?_debit (fits.debitLog allowed kvc date time)

end Change

/-- A change whose amount is in range, logged by the card and told by its next reading for the same kind
of change, behind any head: the reading succeeds and has exactly the one log, with the amount, date,
time, key version and free bytes of the change and the balance and numbers that the card added, and the
last entry is the change. -/
theorem ofResponse?_logBytes {change : Change} {stamp : Stamp} {told : Reading}
    (allowed : change.action.Allows change.amount.toInt) (fits : stamp.Fits)
    (short : IsShort told.balance) (kvc : UInt8) :
    let response := told.headBytes ++ change.logBytes kvc stamp
    let reading : Reading :=
      { told with
        operation := change.action.operation, loadLog := change.loadLog? kvc stamp
        debitLog := change.debitLog? kvc stamp, response }
    Reading.ofResponse? change.action.operation told.command response = some reading ∧
      reading.lastEntry? = some (change.amount, change.date, change.time) := by
  intro response reading
  constructor
  · rw [Reading.ofResponse?_headBytes_append short, Change.logs?_logBytes kvc allowed fits]
    rfl
  · cases change with
    | reload amount date time free => rfl
    | debit amount date time => rfl
    | undebit amount date time => rfl

/-- The greatest negative reload and the greatest reversal of a debit. -/
theorem ofResponse?_logBytes_greatest :
    let stamp : Stamp := ⟨-8388108, 0xDEADBEEF, 7, 0x29⟩
    let told : Reading := ⟨.debit, 0x79, 0x2A, (0xA1, 0xA2, 0xA3), (0xC1, 0xC2), -8388108, none, none,
      [0x00, 0x7C, 0x00, 0x07, 0x00], []⟩
    let reload : Change := .reload (-8388608) 0x1234 0x0506 (0xF1, 0xF2)
    let undebit : Change := .undebit 32767 0x1234 0x0506
    reload.logBytes 0x79 stamp = [0x12, 0x34, 0xF1, 0x79, 0xF2, 0x80, 0x01, 0xF4, 0x80, 0x00, 0x00,
        0x05, 0x06, 0xDE, 0xAD, 0xBE, 0xEF, 0x00, 0x00, 0x07, 0x00, 0x29] ∧
      (∃ reading, Reading.ofResponse? .reload told.command
          (told.headBytes ++ reload.logBytes 0x79 stamp) = some reading ∧
        reading.lastEntry? = some (-8388608, 0x1234, 0x0506)) ∧
      ∃ reading, Reading.ofResponse? .debit told.command
          (told.headBytes ++ undebit.logBytes 0x79 stamp) = some reading ∧
        reading.lastEntry? = some (32767, 0x1234, 0x0506) := by
  intro stamp told reload undebit
  have fits : stamp.Fits := ⟨⟨by decide, by decide⟩, by decide⟩
  have short : IsShort told.balance := ⟨by decide, by decide⟩
  have lowest : reload.action.Allows reload.amount.toInt := ⟨by decide, by decide⟩
  have highest : undebit.action.Allows undebit.amount.toInt := ⟨by decide, by decide⟩
  obtain ⟨load, loaded⟩ := ofResponse?_logBytes lowest fits short 0x79
  obtain ⟨debit, debited⟩ := ofResponse?_logBytes highest fits short 0x79
  exact ⟨by decide, ⟨_, load, loaded⟩, ⟨_, debit, debited⟩⟩

end FareTerminal.StoredValue
