import Mathlib.Data.List.OfFn
import FareTerminal.Proofs.Bytes.BigEndian
import FareTerminal.StoredValue.Reading

/-! Reading a card's answer keeps all of it. Every answer of the right length is read, each field is
written back as the bytes that it was read from, and so no two answers are read alike. -/

namespace FareTerminal.StoredValue

open BigEndian

/-- The bytes of a string one by one. -/
theorem exists_ofFn {bytes : Bytes} {n : Nat} (length : bytes.length = n) :
    ∃ byte : Fin n → UInt8, bytes = List.ofFn byte := by
  subst length
  exact ⟨bytes.get, (List.ofFn_get bytes).symm⟩

/-- Whether every string of so many bytes is read and written back, and no other is read. -/
structure ReadsExactly {α : Type} (read? : Bytes → Option α) (write : α → Bytes) (n : Nat) :
    Prop where
  whole : ∀ byte : Fin n → UInt8, ∃ a, read? (List.ofFn byte) = some a ∧ write a = List.ofFn byte
  others : ∀ bytes, bytes.length ≠ n → read? bytes = none

namespace ReadsExactly

variable {α : Type} {read? : Bytes → Option α} {write : α → Bytes} {n : Nat}

theorem length_of_read (exactly : ReadsExactly read? write n) {bytes : Bytes}
    (read : (read? bytes).isSome) : bytes.length = n := by
  by_contra other
  rw [exactly.others bytes other] at read
  cases read

theorem isSome_iff (exactly : ReadsExactly read? write n) (bytes : Bytes) :
    (read? bytes).isSome ↔ bytes.length = n := by
  refine ⟨exactly.length_of_read, fun length => ?_⟩
  obtain ⟨byte, rfl⟩ := exists_ofFn length
  obtain ⟨a, read, -⟩ := exactly.whole byte
  rw [read, Option.isSome_some]

theorem write_of_read (exactly : ReadsExactly read? write n) {bytes : Bytes} {a : α}
    (read : read? bytes = some a) : write a = bytes := by
  obtain ⟨byte, rfl⟩ := exists_ofFn (exactly.length_of_read (Option.isSome_of_eq_some read))
  obtain ⟨a', read', written⟩ := exactly.whole byte
  obtain rfl := Option.some.inj (read.symm.trans read')
  exact written

end ReadsExactly

theorem LoadLog.readsExactly : ReadsExactly ofBytes? toBytes 22 where
  whole byte := ⟨_, rfl, by simp [toBytes, encode16_word16, encodeSigned_signed, encode_unsigned]⟩
  others bytes other := by
    unfold ofBytes?
    split
    · exact absurd rfl other
    · rfl

theorem DebitLog.readsExactly : ReadsExactly ofBytes? toBytes 19 where
  whole byte := ⟨_, rfl, by simp [toBytes, encode16_word16, encodeSigned_signed, encode_unsigned]⟩
  others bytes other := by
    unfold ofBytes?
    split
    · exact absurd rfl other
    · rfl

namespace Reading

theorem isSome_logs?_iff (operation : Operation) (bytes : Bytes) :
    (logs? operation bytes).isSome ↔ bytes.length + 11 = expectedLength operation := by
  cases operation with
  | reload =>
    rw [logs?, Option.isSome_map, LoadLog.readsExactly.isSome_iff]
    exact Nat.add_right_cancel_iff.symm
  | debit =>
    rw [logs?, Option.isSome_map, DebitLog.readsExactly.isSome_iff]
    exact Nat.add_right_cancel_iff.symm

/-- The log of the operation is there and no other, and the bytes are those of the log. -/
theorem of_logs? {operation : Operation} {bytes : Bytes} {load : Option LoadLog}
    {debit : Option DebitLog} (read : logs? operation bytes = some (load, debit)) :
    load.isSome = (operation == .reload) ∧ debit.isSome = (operation == .debit) ∧
      (load.map LoadLog.toBytes).getD [] ++ (debit.map DebitLog.toBytes).getD [] = bytes := by
  cases operation with
  | reload =>
    obtain ⟨log, told, same⟩ := Option.map_eq_some_iff.mp read
    cases same
    exact ⟨rfl, rfl, (List.append_nil _).trans (LoadLog.readsExactly.write_of_read told)⟩
  | debit =>
    obtain ⟨log, told, same⟩ := Option.map_eq_some_iff.mp read
    cases same
    exact ⟨rfl, rfl, DebitLog.readsExactly.write_of_read told⟩

theorem isSome_ofResponse?_iff (operation : Operation) (command response : Bytes) :
    (ofResponse? operation command response).isSome ↔
      response.length = expectedLength operation := by
  constructor
  · intro read
    unfold ofResponse? at read
    split at read
    · rw [Option.isSome_map, isSome_logs?_iff] at read
      exact read
    · cases read
  · intro length
    have long : 11 ≤ response.length := by
      rw [length]
      cases operation <;> decide
    obtain ⟨byte, head⟩ := exists_ofFn (List.length_take_of_le long)
    rw [← List.take_append_drop 11 response, head]
    have read : (ofResponse? operation command (List.ofFn byte ++ response.drop 11)).isSome =
        (logs? operation (response.drop 11)).isSome := Option.isSome_map
    rw [read, isSome_logs?_iff, List.length_drop, Nat.sub_add_cancel long, length]

theorem toBytes_of_ofResponse? {operation : Operation} {command response : Bytes}
    {reading : Reading} (read : ofResponse? operation command response = some reading) :
    reading.toBytes = response ∧ reading.loadLog.isSome = (operation == .reload) ∧
      reading.debitLog.isSome = (operation == .debit) := by
  unfold ofResponse? at read
  split at read
  · rename_i kvc n₁ n₂ p₁ p₂ p₃ c₁ c₂ b₁ b₂ b₃ log
    obtain ⟨⟨load, debit⟩, told, rfl⟩ := Option.map_eq_some_iff.mp read
    obtain ⟨loaded, debited, tail⟩ := of_logs? told
    refine ⟨?_, loaded, debited⟩
    simp [toBytes, headBytes, encode16_word16, encodeSigned_signed, tail]
  · cases read

/-- What a reading says, without the bytes that told it. -/
def fields (reading : Reading) : Reading := { reading with command := [], response := [] }

theorem toBytes_fields (reading : Reading) : reading.fields.toBytes = reading.toBytes := rfl

/-- An answer is read just if it has the length that the operation asks for. Written back field by
field it is what the card sent, it has the log of the operation and no other, and whatever answer is
read alike is the same answer. -/
theorem ofResponse?_lossless (operation : Operation) (command response : Bytes) :
    ((ofResponse? operation command response).isSome ↔
      response.length = expectedLength operation) ∧
    ∀ reading, ofResponse? operation command response = some reading →
      reading.toBytes = response ∧
      (reading.loadLog.isSome ↔ operation = .reload) ∧
      (reading.debitLog.isSome ↔ operation = .debit) ∧
      ∀ operation' command' response' reading',
        ofResponse? operation' command' response' = some reading' →
          reading'.fields = reading.fields → response' = response := by
  refine ⟨isSome_ofResponse?_iff operation command response, fun reading read => ?_⟩
  obtain ⟨written, loaded, debited⟩ := toBytes_of_ofResponse? read
  refine ⟨written, by rw [loaded, beq_iff_eq], by rw [debited, beq_iff_eq], ?_⟩
  intro operation' command' response' reading' read' same
  calc response' = reading'.toBytes := (toBytes_of_ofResponse? read').1.symm
    _ = reading.toBytes := by rw [← toBytes_fields, same, toBytes_fields]
    _ = response := written

/-- Two answers to a reading for a debit that differ in the sign of the last amount. -/
theorem ofResponse?_lossless_sign :
    let head : Bytes := [0x79, 0x00, 0x2A, 0xA1, 0xA2, 0xA3, 0xC1, 0xC2, 0xFF, 0xFE, 0x0C]
    let tail : Bytes := [0x12, 0x34, 0x05, 0x06, 0x79, 0xDE, 0xAD, 0xBE, 0xEF, 0x00, 0x00, 0x07,
      0x80, 0x00, 0x00, 0x00, 0x29]
    let answer : Bytes := head ++ [0x80, 0x01] ++ tail
    let other : Bytes := head ++ [0x00, 0x01] ++ tail
    ∃ reading reading', ofResponse? .debit [] answer = some reading ∧
      ofResponse? .debit [] other = some reading' ∧ reading.toBytes = answer ∧
      reading.loadLog.isSome = false ∧ reading.debitLog.isSome = true ∧
      reading'.fields ≠ reading.fields := by
  intro head tail answer other
  obtain ⟨isRead, kept⟩ := ofResponse?_lossless .debit [] answer
  obtain ⟨reading, read⟩ := Option.isSome_iff_exists.mp (isRead.mpr rfl)
  obtain ⟨reading', read'⟩ :=
    Option.isSome_iff_exists.mp ((ofResponse?_lossless .debit [] other).1.mpr rfl)
  obtain ⟨written, load, debit, injective⟩ := kept reading read
  refine ⟨reading, reading', read, read', written, ?_, debit.mpr rfl, fun same => ?_⟩
  · exact Bool.eq_false_iff.mpr fun loaded => absurd (load.mp loaded) (by decide)
  · exact absurd (injective .debit [] other reading' read' same) (by decide)

end Reading

end FareTerminal.StoredValue
