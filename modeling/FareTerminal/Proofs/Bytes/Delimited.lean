import FareTerminal.Bytes

/-! Pieces of data one after the other, of which each tells where it ends. Such bytes can be taken apart in
one way only, and any other bytes end within a piece. -/

namespace FareTerminal.Delimited

/-- Data behind a byte with its length; the byte holds the low eight bits of the length. -/
def block (data : Bytes) : Bytes := UInt8.ofNat data.length :: data

variable {α : Type}

/-- Some bytes of a piece, but not all of them. -/
def IsBegun (write : α → Bytes) (fits : α → Prop) (bytes : Bytes) : Prop :=
  ∃ piece count, fits piece ∧ 0 < count ∧ count < (write piece).length ∧
    bytes = (write piece).take count

/-- The bytes of pieces, followed by some bytes of one more, but not by all of them. -/
def IsCutOff (write : α → Bytes) (fits : α → Prop) (bytes : Bytes) : Prop :=
  ∃ (pieces : List α) (rest : Bytes), (∀ piece ∈ pieces, fits piece) ∧ IsBegun write fits rest ∧
    bytes = pieces.flatMap write ++ rest

/-- A reader that takes pieces from the front of bytes, one by one, and wants all of them complete. Whatever
the bytes are, there is a piece in front, or the beginning of one. -/
structure Reads (write : α → Bytes) (fits : α → Prop) (read : Bytes → Option (List α)) : Prop where
  nonempty : ∀ piece, write piece ≠ []
  front : ∀ bytes, bytes = [] ∨ IsBegun write fits bytes ∨
    ∃ piece rest, fits piece ∧ bytes = write piece ++ rest
  read_nil : read [] = some []
  read_begun : ∀ bytes, IsBegun write fits bytes → read bytes = none
  read_append : ∀ piece rest, fits piece →
    read (write piece ++ rest) = (read rest).map (piece :: ·)

section Reading

variable {write : α → Bytes} {fits : α → Prop} {read : Bytes → Option (List α)}

/-- Bytes of pieces that end within one of them. -/
theorem isCutOff_take {before after : List α} {last : α}
    (short : ∀ piece ∈ before ++ last :: after, fits piece) {count : Nat} (begun : 0 < count)
    (notAll : count < (write last).length) :
    IsCutOff write fits
      (((before ++ last :: after).flatMap write).take ((before.flatMap write).length + count)) := by
  refine ⟨before, (write last).take count, fun piece member => short piece (by simp [member]),
    ⟨last, count, short last (by simp), begun, notAll, rfl⟩, ?_⟩
  rw [List.flatMap_append, List.flatMap_cons, List.take_length_add_append,
    List.take_append_of_le_length (Nat.le_of_lt notAll)]

/-- A piece in front changes nothing. -/
theorem IsCutOff.cons {bytes : Bytes} (h : IsCutOff write fits bytes) {piece : α} (short : fits piece) :
    IsCutOff write fits (write piece ++ bytes) := by
  obtain ⟨pieces, rest, shorts, begun, rfl⟩ := h
  refine ⟨piece :: pieces, rest, List.forall_mem_cons.mpr ⟨short, shorts⟩, begun, ?_⟩
  rw [List.flatMap_cons, List.append_assoc]

namespace Reads

/-- Any bytes are the bytes of pieces, or a piece is cut off. -/
theorem exists_flatMap_or_isCutOff (reads : Reads write fits read) (bytes : Bytes) :
    (∃ pieces : List α, (∀ piece ∈ pieces, fits piece) ∧ bytes = pieces.flatMap write) ∨
      IsCutOff write fits bytes := by
  induction size : bytes.length using Nat.strongRecOn generalizing bytes with
  | ind length ih =>
    obtain rfl | begun | ⟨piece, rest, short, rfl⟩ := reads.front bytes
    · exact .inl ⟨[], nofun, rfl⟩
    · exact .inr ⟨[], bytes, nofun, begun, rfl⟩
    · have some := List.length_pos_iff.mpr (reads.nonempty piece)
      have less : rest.length < length := by
        rw [← size, List.length_append]
        omega
      obtain ⟨pieces, shorts, rfl⟩ | cutOff := ih _ less rest rfl
      · exact .inl ⟨piece :: pieces, List.forall_mem_cons.mpr ⟨short, shorts⟩, rfl⟩
      · exact .inr (cutOff.cons short)

/-- Pieces are read whatever follows them. -/
theorem flatMap_append (reads : Reads write fits read) {pieces : List α}
    (short : ∀ piece ∈ pieces, fits piece) (rest : Bytes) :
    read (pieces.flatMap write ++ rest) = (read rest).map (pieces ++ ·) := by
  induction pieces with
  | nil => simp
  | cons piece others ih =>
    obtain ⟨first, shorts⟩ := List.forall_mem_cons.mp short
    rw [List.flatMap_cons, List.append_assoc, reads.read_append piece _ first, ih shorts,
      Option.map_map]
    rfl

theorem of_flatMap (reads : Reads write fits read) {pieces : List α}
    (short : ∀ piece ∈ pieces, fits piece) : read (pieces.flatMap write) = some pieces := by
  have read := reads.flatMap_append short []
  rwa [List.append_nil, reads.read_nil, Option.map_some, List.append_nil] at read

theorem of_isCutOff (reads : Reads write fits read) {bytes : Bytes}
    (h : IsCutOff write fits bytes) : read bytes = none := by
  obtain ⟨pieces, rest, short, begun, rfl⟩ := h
  rw [reads.flatMap_append short, reads.read_begun rest begun, Option.map_none]

theorem eq_some_iff (reads : Reads write fits read) {bytes : Bytes} {pieces : List α} :
    read bytes = some pieces ↔ bytes = pieces.flatMap write ∧ ∀ piece ∈ pieces, fits piece := by
  constructor
  · intro told
    obtain ⟨others, short, rfl⟩ | cutOff := reads.exists_flatMap_or_isCutOff bytes
    · obtain rfl := Option.some.inj ((reads.of_flatMap short).symm.trans told)
      exact ⟨rfl, short⟩
    · rw [reads.of_isCutOff cutOff] at told
      cases told
  · rintro ⟨rfl, short⟩
    exact reads.of_flatMap short

theorem eq_none_iff (reads : Reads write fits read) {bytes : Bytes} :
    read bytes = none ↔ IsCutOff write fits bytes := by
  refine ⟨fun unread => ?_, reads.of_isCutOff⟩
  obtain ⟨pieces, short, rfl⟩ | cutOff := reads.exists_flatMap_or_isCutOff bytes
  · rw [reads.of_flatMap short] at unread
    cases unread
  · exact cutOff

end Reads

end Reading

section Block

/-- What has room behind its length. -/
def Short (data : Bytes) : Prop := data.length ≤ 255

theorem toNat_lengthByte {data : Bytes} (short : Short data) :
    (UInt8.ofNat data.length).toNat = data.length :=
  UInt8.toNat_ofNat_of_lt' (Nat.lt_succ_of_le short)

theorem isBegun_block_iff {bytes : Bytes} :
    IsBegun block Short bytes ↔
      ∃ length rest, bytes = length :: rest ∧ rest.length < length.toNat := by
  constructor
  · rintro ⟨data, count, short, begun, notAll, rfl⟩
    obtain ⟨rest, rfl⟩ := Nat.exists_eq_add_one.mpr begun
    refine ⟨UInt8.ofNat data.length, data.take rest, rfl, ?_⟩
    have notAll : rest + 1 < data.length + 1 := notAll
    rw [toNat_lengthByte short, List.length_take]
    omega
  · rintro ⟨length, rest, rfl, less⟩
    let missing : Bytes := List.replicate (length.toNat - rest.length) 0
    have size : (rest ++ missing).length = length.toNat := by
      rw [List.length_append, List.length_replicate]
      omega
    have bound := length.toNat_lt
    refine ⟨rest ++ missing, rest.length + 1, ?_, by omega, ?_, ?_⟩
    · change (rest ++ missing).length ≤ 255
      omega
    · rw [block, List.length_cons, size]
      omega
    · rw [block, size, UInt8.ofNat_toNat, List.take_succ_cons, List.take_left]

/-- There is a block in front, or the beginning of one. -/
theorem front_block (bytes : Bytes) :
    bytes = [] ∨ IsBegun block Short bytes ∨ ∃ data rest, Short data ∧ bytes = block data ++ rest := by
  cases bytes with
  | nil => exact .inl rfl
  | cons length rest =>
    refine .inr ?_
    by_cases less : rest.length < length.toNat
    · exact .inl (isBegun_block_iff.mpr ⟨length, rest, rfl, less⟩)
    · have size : (rest.take length.toNat).length = length.toNat := by
        rw [List.length_take]
        omega
      have bound := length.toNat_lt
      refine .inr ⟨rest.take length.toNat, rest.drop length.toNat, ?_, ?_⟩
      · change (rest.take length.toNat).length ≤ 255
        omega
      · rw [block, size, UInt8.ofNat_toNat, List.cons_append, List.take_append_drop]

end Block

end FareTerminal.Delimited
