import FareTerminal.Proofs.Bytes.Delimited
import FareTerminal.Session.FileCommand

/-! Several records in one response are read exactly if none of them is cut off: any bytes are the bytes of
records, and perhaps of the beginning of one more. -/

namespace FareTerminal.Session

namespace Records

/-- The bytes of a record. -/
def write (record : Record) : Bytes := record.1 :: Delimited.block record.2

/-- Whether the length of a record has room in its byte. -/
def Short (record : Record) : Prop := record.2.length ≤ 255

/-- The bytes of records, followed by some bytes of one more, but not by all of them. -/
abbrev IsCutOff (bytes : Bytes) : Prop := Delimited.IsCutOff write Short bytes

/-- What has been begun of a record is its number, and perhaps some of the data behind it. -/
theorem isBegun_write_iff {bytes : Bytes} :
    Delimited.IsBegun write Short bytes ↔ ∃ number rest, bytes = number :: rest ∧
      (rest = [] ∨ Delimited.IsBegun Delimited.block Delimited.Short rest) := by
  constructor
  · rintro ⟨⟨number, data⟩, count, short, begun, notAll, rfl⟩
    obtain ⟨behind, rfl⟩ := Nat.exists_eq_add_one.mpr begun
    refine ⟨number, (Delimited.block data).take behind, rfl, ?_⟩
    obtain rfl | some := Nat.eq_zero_or_pos behind
    · exact .inl (List.take_zero ..)
    · exact .inr ⟨data, behind, short, some, Nat.lt_of_succ_lt_succ notAll, rfl⟩
  · rintro ⟨number, rest, rfl, rfl | ⟨data, count, short, begun, notAll, rfl⟩⟩
    · exact ⟨(number, []), 1, Nat.zero_le _, Nat.one_pos, Nat.one_lt_two, rfl⟩
    · exact ⟨(number, data), count + 1, short, Nat.succ_pos _, Nat.succ_lt_succ notAll, rfl⟩

/-- Records are taken from the front, each up to where its length byte says. -/
theorem reads_decode? : Delimited.Reads write Short decode? where
  nonempty record := List.cons_ne_nil _ _
  front bytes := by
    cases bytes with
    | nil => exact .inl rfl
    | cons number rest =>
      refine .inr ?_
      rw [isBegun_write_iff]
      obtain rfl | begun | ⟨data, behind, short, rfl⟩ := Delimited.front_block rest
      · exact .inl ⟨number, [], rfl, .inl rfl⟩
      · exact .inl ⟨number, rest, rfl, .inr begun⟩
      · exact .inr ⟨(number, data), behind, short, rfl⟩
  read_nil := by rw [decode?]
  read_begun bytes begun := by
    obtain ⟨number, rest, rfl, rfl | begun⟩ := isBegun_write_iff.mp begun
    · rw [decode?]
    · obtain ⟨length, data, rfl, less⟩ := Delimited.isBegun_block_iff.mp begun
      rw [decode?, if_pos less]
  read_append record rest short := by
    obtain ⟨number, data⟩ := record
    rw [write, Delimited.block, List.cons_append, List.cons_append, decode?,
      Delimited.toNat_lengthByte short, if_neg (by simp), List.drop_left, List.take_left]

theorem decode?_eq_some_iff {bytes : Bytes} {records : List Record} :
    decode? bytes = some records ↔ bytes = encode records ∧ ∀ record ∈ records, Short record :=
  reads_decode?.eq_some_iff

theorem decode?_eq_none_iff {bytes : Bytes} : decode? bytes = none ↔ IsCutOff bytes :=
  reads_decode?.eq_none_iff

end Records

/-- What the data of a response to the reading of several records says, for any data. If it is the records'
bytes it says these records, and if a record is cut off it says nothing; there is no other case. So data that
ends within a record is not taken for fewer records. -/
theorem decode_inverts (sfi record expected : UInt8) (data : Bytes) :
    let command := FileCommand.readRecords sfi record true expected
    (∀ result, command.decode data = .ok result ↔
      ∃ records, result = .records records ∧ data = Records.encode records ∧
        ∀ record ∈ records, record.2.length ≤ 255) ∧
    (∀ error, command.decode data = .error error ↔
      Records.IsCutOff data ∧ error = .malformed .recordData) ∧
    ∀ before cut after count, (∀ record ∈ before ++ cut :: after, record.2.length ≤ 255) →
      0 < count → count < (Records.encode [cut]).length →
      command.decode ((Records.encode (before ++ cut :: after)).take
        ((Records.encode before).length + count)) = .error (.malformed .recordData) := by
  intro command
  have read {data : Bytes} {records : List Record} (told : Records.decode? data = some records) :
      command.decode data = .ok (.records records) := by
    simp [command, FileCommand.decode, told]
  have unread {data : Bytes} (told : Records.decode? data = none) :
      command.decode data = .error (.malformed .recordData) := by
    simp [command, FileCommand.decode, told]
  refine ⟨fun result => ?_, fun error => ?_, ?_⟩
  · change _ ↔ ∃ records, _ ∧ _ ∧ ∀ record ∈ records, Records.Short record
    simp only [← Records.decode?_eq_some_iff]
    cases told : Records.decode? data with
    | none => simp [unread told]
    | some records => simp [read told, eq_comm]
  · rw [← Records.decode?_eq_none_iff]
    cases told : Records.decode? data with
    | none => simp [unread told, eq_comm]
    | some records => simp [read told]
  · intro before cut after count short begun notAll
    rw [Records.encode_cons, Records.encode_nil, List.append_nil] at notAll
    have cutOff : Records.IsCutOff ((Records.encode (before ++ cut :: after)).take
        ((Records.encode before).length + count)) := Delimited.isCutOff_take short begun notAll
    exact unread (Records.decode?_eq_none_iff.mpr cutOff)

/-- Two records of which the last byte is missing. -/
theorem decode_inverts_cutOff :
    (∀ record ∈ [(1, [0xAA, 0xBB])] ++ ((2, [0xCC, 0xDD]) : Record) :: [], record.2.length ≤ 255) ∧
      (FileCommand.readRecords 7 1 true 0).decode [1, 2, 0xAA, 0xBB, 2, 2, 0xCC] =
        .error (.malformed .recordData) := by
  have short :
      ∀ record ∈ [(1, [0xAA, 0xBB])] ++ ((2, [0xCC, 0xDD]) : Record) :: [], record.2.length ≤ 255 := by
    simp
  exact ⟨short, (decode_inverts 7 1 0 []).2.2 _ _ _ 3 short (by decide) (by decide)⟩

end FareTerminal.Session
