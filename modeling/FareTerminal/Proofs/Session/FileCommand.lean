import FareTerminal.Proofs.Apdu.Packing
import FareTerminal.Session.FileCommand

/-! What the bytes of a command on a file tell of it. All of it can be read from them again but for
the amounts of counters, of which only three bytes are sent. -/

namespace FareTerminal

namespace Session.FileCommand

/-- What is left of an amount in three bytes. -/
def sentAmount (amount : UInt32) : UInt32 := amount % 0x1000000

/-- The command as it is sent. -/
def sent : FileCommand → FileCommand
  | increase sfi counter amount => increase sfi counter (sentAmount amount)
  | decrease sfi counter amount => decrease sfi counter (sentAmount amount)
  | readRecords sfi record multiple expected => readRecords sfi record multiple expected
  | updateRecord sfi record data => updateRecord sfi record data
  | writeRecord sfi record data => writeRecord sfi record data
  | appendRecord sfi data => appendRecord sfi data

/-- Three bytes hold what the command adds to a counter or takes from it. -/
def AmountFits : FileCommand → Prop
  | increase _ _ amount | decrease _ _ amount => amount < 0x1000000
  | readRecords .. | updateRecord .. | writeRecord .. | appendRecord .. => True

/-- Reads the bytes of a command. Behind the header stands the expected length alone, or the data
behind its length. -/
def ofBytes? : Bytes → Option FileCommand
  | _ :: ins :: p1 :: p2 :: body =>
    let sfi := p2 >>> 3
    if ins = 0xB2 then body.head?.map (readRecords sfi p1 (p2 % 8 == 0x05))
    else if ins = 0xDC then some (updateRecord sfi p1 body.tail)
    else if ins = 0xD2 then some (writeRecord sfi p1 body.tail)
    else if ins = 0xE2 then some (appendRecord sfi body.tail)
    else if ins = 0x32 then some (increase sfi p1 (BigEndian.unsigned (body.tail.take 3)))
    else if ins = 0x30 then some (decrease sfi p1 (BigEndian.unsigned (body.tail.take 3)))
    else none
  | _ => none

theorem sent_of_amountFits {command : FileCommand} (fits : command.AmountFits) :
    command.sent = command := by
  cases command with
  | increase sfi counter amount => exact congrArg _ (UInt32.mod_eq_of_lt fits)
  | decrease sfi counter amount => exact congrArg _ (UInt32.mod_eq_of_lt fits)
  | readRecords sfi record multiple expected => rfl
  | updateRecord sfi record data => rfl
  | writeRecord sfi record data => rfl
  | appendRecord sfi data => rfl

theorem toNat_sentAmount (amount : UInt32) :
    (sentAmount amount).toNat = amount.toNat % BigEndian.capacity 3 := UInt32.toNat_mod amount _

theorem encode_sentAmount (amount : UInt32) :
    BigEndian.encode 3 (sentAmount amount).toNat = BigEndian.encode 3 amount.toNat := by
  rw [toNat_sentAmount, BigEndian.encode_mod_capacity]

theorem unsigned_encode_three (amount : UInt32) :
    BigEndian.unsigned (BigEndian.encode 3 amount.toNat) = sentAmount amount := by
  rw [BigEndian.unsigned, BigEndian.value_encode, ← toNat_sentAmount, UInt32.ofNat_toNat]

theorem toCommand_sent (cla : UInt8) (command : FileCommand) :
    command.sent.toCommand cla = command.toCommand cla := by
  cases command with
  | increase sfi counter amount =>
    simp only [sent, toCommand, Apdu.Command.increase, encode_sentAmount]
  | decrease sfi counter amount =>
    simp only [sent, toCommand, Apdu.Command.decrease, encode_sentAmount]
  | readRecords sfi record multiple expected => rfl
  | updateRecord sfi record data => rfl
  | writeRecord sfi record data => rfl
  | appendRecord sfi data => rfl

theorem sfi_le_of_checkAddress {command : FileCommand} (addressed : command.checkAddress = .ok ()) :
    command.sfi ≤ 31 := by
  unfold checkAddress at addressed
  split at addressed
  · cases addressed
  · rename_i inRange
    have inRange : command.sfi ≤ 30 := UInt8.not_lt.mp inRange
    exact UInt8.le_trans inRange (by decide)

/-- The amount of a counter is found behind the length of the data, which is three. -/
theorem unsigned_amountField (amount : UInt32) (rest : Bytes) :
    BigEndian.unsigned
        ((Apdu.Command.dataField (BigEndian.encode 3 amount.toNat) ++ rest).tail.take 3) =
      sentAmount amount := by
  have found : (Apdu.Command.dataField (BigEndian.encode 3 amount.toNat) ++ rest).tail.take 3 =
      BigEndian.encode 3 amount.toNat := rfl
  rw [found, unsigned_encode_three]

/-- The bytes of a command whose address is in range are read as the command that is sent. -/
theorem ofBytes?_toBytes (cla : UInt8) {command : FileCommand}
    (addressed : command.checkAddress = .ok ()) :
    ofBytes? (command.toCommand cla).toBytes = some command.sent := by
  have four : (0x04 : UInt8) < 8 := by decide
  cases command with
  | readRecords sfi record multiple expected =>
    have five : sfi ≤ 31 := sfi_le_of_checkAddress addressed
    have three : (if multiple then 0x05 else 0x04 : UInt8) < 8 := by cases multiple <;> decide
    have number := shiftLeft_three_or_shiftRight five three
    have mode : ((sfi <<< 3 ||| if multiple then 0x05 else 0x04) % 8 == 0x05) = multiple := by
      rw [shiftLeft_three_or_mod five three]
      cases multiple <;> rfl
    simp [toCommand, Apdu.Command.readRecords, Apdu.Command.toBytes, ofBytes?, sent, number, mode]
  | updateRecord sfi record data =>
    have five : sfi ≤ 31 := sfi_le_of_checkAddress addressed
    have number := shiftLeft_three_or_shiftRight five four
    simp [toCommand, Apdu.Command.updateRecord, Apdu.Command.toBytes, ofBytes?, sent, number]
  | writeRecord sfi record data =>
    have five : sfi ≤ 31 := sfi_le_of_checkAddress addressed
    have number := shiftLeft_three_or_shiftRight five four
    simp [toCommand, Apdu.Command.writeRecord, Apdu.Command.toBytes, ofBytes?, sent, number]
  | appendRecord sfi data =>
    have five : sfi ≤ 31 := sfi_le_of_checkAddress addressed
    have number := shiftLeft_three_shiftRight five
    simp [toCommand, Apdu.Command.appendRecord, Apdu.Command.toBytes, ofBytes?, sent, number]
  | increase sfi counter amount =>
    have five : sfi ≤ 31 := sfi_le_of_checkAddress addressed
    have number := shiftLeft_three_shiftRight five
    have amount := unsigned_amountField amount [0x00]
    simp [toCommand, Apdu.Command.increase, Apdu.Command.toBytes, ofBytes?, sent, number, amount]
  | decrease sfi counter amount =>
    have five : sfi ≤ 31 := sfi_le_of_checkAddress addressed
    have number := shiftLeft_three_shiftRight five
    have amount := unsigned_amountField amount [0x00]
    simp [toCommand, Apdu.Command.decrease, Apdu.Command.toBytes, ofBytes?, sent, number, amount]

/-- For any class byte, two commands whose addresses are in range have the same bytes exactly if they
are the same as sent. So no command is taken for another one, unless both change the same counter in
the same way and their amounts agree in the low three bytes but not in the fourth. -/
theorem toBytes_eq_iff_sent_eq (cla : UInt8) {command other : FileCommand}
    (addressed : command.checkAddress = .ok ()) (addressed' : other.checkAddress = .ok ()) :
    ((command.toCommand cla).toBytes = (other.toCommand cla).toBytes ↔ command.sent = other.sent) ∧
      (command.AmountFits → other.AmountFits →
        (command.toCommand cla).toBytes = (other.toCommand cla).toBytes → command = other) := by
  have same : (command.toCommand cla).toBytes = (other.toCommand cla).toBytes ↔
      command.sent = other.sent := by
    constructor
    · intro bytes
      have read := congrArg ofBytes? bytes
      rw [ofBytes?_toBytes cla addressed, ofBytes?_toBytes cla addressed'] at read
      exact Option.some.inj read
    · intro sent
      rw [← toCommand_sent, sent, toCommand_sent]
  refine ⟨same, fun fits fits' bytes => ?_⟩
  rw [← sent_of_amountFits fits, ← sent_of_amountFits fits']
  exact same.mp bytes

/-- Amounts that differ in the fourth byte only. -/
theorem toBytes_increase_eq :
    (increase 25 1 0x01000005).checkAddress = .ok () ∧ (increase 25 1 5).checkAddress = .ok () ∧
      ((increase 25 1 0x01000005).toCommand 0x00).toBytes =
        ((increase 25 1 5).toCommand 0x00).toBytes :=
  ⟨rfl, rfl, (toBytes_eq_iff_sent_eq 0x00 rfl rfl).1.mpr (by decide)⟩

/-- A command is taken for another one: the card adds nothing where 0x01000000 was asked for. -/
theorem toBytes_increase_not_injective :
    (increase 25 1 0x01000000).checkAddress = .ok () ∧ (increase 25 1 0).checkAddress = .ok () ∧
      ((increase 25 1 0x01000000).toCommand 0x00).toBytes =
        ((increase 25 1 0).toCommand 0x00).toBytes ∧
      increase 25 1 0x01000000 ≠ increase 25 1 0 :=
  ⟨rfl, rfl, by decide, by decide⟩

end Session.FileCommand

end FareTerminal
