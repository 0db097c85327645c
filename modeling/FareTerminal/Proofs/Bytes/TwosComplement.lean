import Mathlib.Data.Int.ModEq
import Mathlib.Data.List.Induction
import FareTerminal.Proofs.Bytes.BigEndian

/-! Numbers on one to four bytes as integers. A machine gathers the bytes in a word of 32 bits, spreads
their sign over it by two shifts and writes the last of the word's bytes (`unsigned_eq_foldl`,
`signed_eq_signExtend`, `encodeSigned_eq_drop`). An integer that is written on fewer bytes than it has
comes back as its residue between the least and the greatest number of that width. Bytes that are read
with a sign and without give two numbers that differ by the whole range of the width or not at all. -/

namespace FareTerminal.BigEndian

/-! ### Strings in parts -/

theorem value_append (head tail : Bytes) :
    value (head ++ tail) = capacity tail.length * value head + value tail := by
  -- From the last byte on, as `value` itself goes.
  induction tail using List.reverseRecOn with
  | nil => simp [capacity]
  | append_singleton tail b ih =>
    rw [← List.append_assoc, value_append_singleton, value_append_singleton, ih,
      List.length_append, List.length_singleton, capacity, Nat.mul_add, Nat.mul_assoc,
      Nat.add_assoc]

theorem value_cons (top : UInt8) (rest : Bytes) :
    value (top :: rest) = capacity rest.length * top.toNat + value rest := by
  simpa [value] using value_append [top] rest

/-- The top bit of the first byte tells whether the number is in the upper half of its range. -/
theorem capacity_le_two_mul_value_iff (top : UInt8) (rest : Bytes) :
    capacity (rest.length + 1) ≤ 2 * value (top :: rest) ↔ top.toNat.testBit 7 := by
  have bit : top.toNat.testBit 7 ↔ 128 ≤ top.toNat := by
    have := top.toNat_lt
    rw [Nat.testBit_eq_decide_div_mod_eq, decide_eq_true_iff]
    omega
  have below := value_lt_capacity rest
  rw [bit, value_cons, capacity]
  constructor
  · intro upper
    by_contra low
    have small : capacity rest.length * (top.toNat + 1) ≤ capacity rest.length * 128 :=
      Nat.mul_le_mul_left _ (by omega)
    rw [Nat.mul_succ] at small
    omega
  · intro high
    have large : capacity rest.length * 128 ≤ capacity rest.length * top.toNat :=
      Nat.mul_le_mul_left _ high
    omega

/-! ### Without a sign -/

theorem toNat_unsigned (bytes : Bytes) : (unsigned bytes).toNat = value bytes % capacity 4 := rfl

theorem toNat_unsigned_of_short {bytes : Bytes} (four : bytes.length ≤ 4) :
    (unsigned bytes).toNat = value bytes := by
  rw [toNat_unsigned]
  exact Nat.mod_eq_of_lt (Nat.lt_of_lt_of_le (value_lt_capacity bytes) (capacity_le_capacity four))

theorem unsigned_append {head tail : Bytes} (four : tail.length = 4) :
    unsigned (head ++ tail) = unsigned tail := by
  apply UInt32.toNat_inj.mp
  rw [toNat_unsigned, toNat_unsigned, value_append, four, Nat.mul_add_mod]

theorem unsigned_drop (bytes : Bytes) :
    unsigned (bytes.drop (bytes.length - 4)) = unsigned bytes := by
  by_cases long : 4 ≤ bytes.length
  · have four : (bytes.drop (bytes.length - 4)).length = 4 := by
      rw [List.length_drop, Nat.sub_sub_self long]
    rw [← unsigned_append four, List.take_append_drop]
  · rw [Nat.sub_eq_zero_of_le (Nat.le_of_not_le long), List.drop_zero]

/-- A byte more behind the string shifts the word up by eight bits, and the top ones are lost. -/
theorem unsigned_append_singleton (bytes : Bytes) (b : UInt8) :
    unsigned (bytes ++ [b]) = unsigned bytes <<< 8 ||| b.toUInt32 := by
  have low : b.toNat < 2 ^ 8 := b.toNat_lt
  have up : (unsigned bytes <<< 8).toNat = (value bytes % 2 ^ 24) <<< 8 := by
    have wrapped : (unsigned bytes <<< 8).toNat = value bytes % 2 ^ 32 * 2 ^ 8 % 2 ^ 32 := by
      rw [UInt32.toNat_shiftLeft, Nat.shiftLeft_eq]
      rfl
    rw [wrapped, Nat.shiftLeft_eq]
    omega
  have whole : (unsigned (bytes ++ [b])).toNat = (256 * value bytes + b.toNat) % 2 ^ 32 := by
    rw [toNat_unsigned, value_append_singleton]
    rfl
  apply UInt32.toNat_inj.mp
  rw [whole, UInt32.toNat_or, up, UInt8.toNat_toUInt32, ← Nat.shiftLeft_add_eq_or_of_lt low,
    Nat.shiftLeft_eq]
  omega

/-- The word is gathered byte after byte. -/
theorem unsigned_eq_foldl (bytes : Bytes) :
    unsigned bytes = bytes.foldl (fun (word : UInt32) b => word <<< 8 ||| b.toUInt32) 0 := by
  induction bytes using List.reverseRecOn with
  | nil => rfl
  | append_singleton bytes b ih =>
    rw [unsigned_append_singleton, List.foldl_append, ← ih, List.foldl_cons, List.foldl_nil]

/-! ### With a sign -/

theorem bmod_bmod_of_le {narrow wide : Nat} (le : narrow ≤ wide) (n : Int) :
    (n.bmod (capacity narrow)).bmod (capacity wide) = n.bmod (capacity narrow) := by
  have least := Int.le_bmod (x := n) (capacity_pos narrow)
  have most := Int.bmod_lt (x := n) (capacity_pos narrow)
  have wider := capacity_le_capacity le
  exact Int.bmod_eq_of_le (by omega) (by omega)

theorem toInt_ofInt_bmod (width : Nat) (n : Int) :
    (Int32.ofInt (n.bmod (capacity (min width 4)))).toInt = n.bmod (capacity (min width 4)) := by
  rw [Int32.toInt_ofInt]
  exact bmod_bmod_of_le (Nat.min_le_right width 4) n

theorem toInt_signed (bytes : Bytes) :
    (signed bytes).toInt = (value bytes : Int).bmod (capacity (min bytes.length 4)) :=
  toInt_ofInt_bmod bytes.length (value bytes)

theorem toInt_signed_encodeSigned (width : Nat) (n : Int32) :
    (signed (encodeSigned width n)).toInt = n.toInt.bmod (capacity (min width 4)) := by
  rw [signed_encodeSigned, toInt_ofInt_bmod]

theorem natCast_capacity_dvd (width : Nat) : (capacity (min width 4) : Int) ∣ capacity 4 :=
  Int.natCast_dvd_natCast.mpr (capacity_dvd_capacity (Nat.min_le_right width 4))

theorem toNat_unsigned_encodeSigned (width : Nat) (n : Int32) :
    ((unsigned (encodeSigned width n)).toNat : Int) = n.toInt % capacity (min width 4) := by
  have divides := natCast_capacity_dvd width
  have residue : n.toInt % capacity (min width 4) =
      (n.toUInt32.toNat : Int) % capacity (min width 4) := by
    rw [toInt_eq_bmod, ← Int.emod_emod_of_dvd _ divides, Int.bmod_emod,
      Int.emod_emod_of_dvd _ divides]
  rw [residue, toNat_unsigned_of_short (by simp), encodeSigned, value_encode, Int.natCast_emod]

/-! ### In words of 32 bits -/

theorem capacity_eq_two_pow (width : Nat) : capacity width = 2 ^ (8 * width) := by
  induction width with
  | zero => rfl
  | succ width ih => rw [capacity, ih, Nat.mul_succ, Nat.pow_add, Nat.mul_comm]

/-- The lowest bits of a word as an integer in two's complement. They are shifted up until the sign
is on top of the word, and come back down with copies of the sign above them. -/
def signExtend (bits : Nat) (word : UInt32) : Int32 :=
  (word <<< UInt32.ofNat (32 - bits)).toInt32 >>> Int32.ofNat (32 - bits)

theorem toInt_shiftRight {amount : Nat} (lt : amount < 32) (n : Int32) :
    (n >>> Int32.ofNat amount).toInt = n.toInt / 2 ^ amount := by
  have same : ((Int32.ofNat amount).toBitVec.smod 32).toNat = amount := by
    decide +revert
  rw [← Int32.toInt_toBitVec, Int32.toBitVec_shiftRight, BitVec.toInt_sshiftRight', same,
    Int.shiftRight_eq_div_pow, Int32.toInt_toBitVec]
  norm_cast

theorem toInt_shiftLeft {amount : Nat} (lt : amount < 32) (word : UInt32) :
    (word <<< UInt32.ofNat amount).toInt32.toInt =
      ((2 ^ amount : Nat) * (word.toNat : Int)).bmod (2 ^ 32) := by
  have same : (UInt32.ofNat amount).toNat % 32 = amount := by
    decide +revert
  rw [toInt_eq_bmod, UInt32.toUInt32_toInt32, UInt32.toNat_shiftLeft, same, Nat.shiftLeft_eq,
    Int.natCast_emod, Nat.mul_comm, Int.natCast_mul]
  exact Int.emod_bmod _ (2 ^ 32)

theorem toInt_signExtend {bits : Nat} (pos : 0 < bits) (le : bits ≤ 32) (word : UInt32) :
    (signExtend bits word).toInt = (word.toNat : Int).bmod (2 ^ bits) := by
  have lt : 32 - bits < 32 := by omega
  -- Up and down are a product and a quotient by one power of two. The word wraps around in between,
  -- at that power times the range of the bits.
  have whole : 2 ^ 32 = 2 ^ (32 - bits) * 2 ^ bits := by
    rw [← Nat.pow_add, Nat.sub_add_cancel le]
  have even : 2 ∣ 2 ^ bits := dvd_pow_self 2 (Nat.ne_of_gt pos)
  rw [signExtend, toInt_shiftRight lt, toInt_shiftLeft lt, whole,
    Int.mod_bmod_mul_of_pos _ _ (Nat.two_pow_pos _) even]
  push_cast
  exact Int.mul_ediv_cancel_left _ (pow_ne_zero _ two_ne_zero)

/-- The sign of a string is spread over the word that it spells. From four bytes on nothing is
shifted. -/
theorem signed_eq_signExtend {bytes : Bytes} (nonempty : bytes ≠ []) :
    signed bytes = signExtend (8 * bytes.length) (unsigned bytes) := by
  have pos : 0 < bytes.length := List.length_pos_iff.mpr nonempty
  have amount : 32 - 8 * bytes.length = 32 - 8 * min bytes.length 4 := by omega
  have same : signExtend (8 * bytes.length) (unsigned bytes) =
      signExtend (8 * min bytes.length 4) (unsigned bytes) := by
    rw [signExtend, amount, signExtend]
  apply Int32.toInt_inj.mp
  rw [same, toInt_signExtend (by omega) (by omega), ← capacity_eq_two_pow, toInt_signed,
    toNat_unsigned, Int.natCast_emod, ← Int.emod_bmod (_ % _),
    Int.emod_emod_of_dvd _ (natCast_capacity_dvd bytes.length), Int.emod_bmod]

example : signExtend 24 0x800000 = -8388608 := by decide

theorem drop_encode (above width n : Nat) :
    (encode (above + width) n).drop above = encode width n := by
  induction width generalizing n with
  | zero => exact List.drop_eq_nil_of_le (by simp)
  | succ width ih =>
    rw [Nat.add_succ, encode, List.drop_append_of_le_length (by simp), ih, encode]

/-- The low bytes of an integer are the last of its four. -/
theorem encodeSigned_eq_drop (width : Nat) (n : Int32) :
    encodeSigned width n = (encodeSigned 4 n).drop (4 - min width 4) := by
  have four : min 4 4 = 4 - min width 4 + min width 4 := by omega
  rw [encodeSigned, encodeSigned, four, drop_encode]

/-! ### Which integers come back -/

theorem natCast_capacity (width : Nat) : (capacity width : Int) = 2 ^ (8 * width) := by
  rw [capacity_eq_two_pow]
  push_cast
  rfl

/-- The residue that two's complement chooses lies between the least and the greatest number of the
width. -/
theorem bmod_capacity_eq_iff {width : Nat} (pos : 1 ≤ width) {n m : Int} :
    n.bmod (capacity width) = m ↔
      -2 ^ (8 * width - 1) ≤ m ∧ m < 2 ^ (8 * width - 1) ∧ m ≡ n [ZMOD 2 ^ (8 * width)] := by
  have halves : (capacity width : Int) = 2 * 2 ^ (8 * width - 1) := by
    rw [natCast_capacity, ← pow_succ', Nat.sub_add_cancel (by omega)]
  rw [Int.bmod_eq_iff (capacity_pos width), Int.modEq_comm, Int.modEq_iff_dvd,
    ← natCast_capacity, halves]
  generalize (2 : Int) ^ (8 * width - 1) = half
  have least : 2 * half / 2 = half := by omega
  have most : (2 * half + 1) / 2 = half := by omega
  rw [least, most]

theorem toNat_unsigned_sub_toInt_signed (top : UInt8) {rest : Bytes} (short : rest.length ≤ 3) :
    ((unsigned (top :: rest)).toNat : Int) - (signed (top :: rest)).toInt =
      if top.toNat.testBit 7 then 2 ^ (8 * (rest.length + 1)) else 0 := by
  have four : (top :: rest).length ≤ 4 := Nat.succ_le_succ short
  have fits : (value (top :: rest) : Int) % capacity (rest.length + 1) = value (top :: rest) :=
    Int.emod_eq_of_lt (Int.natCast_nonneg _) (Int.ofNat_lt.mpr (value_lt_capacity _))
  have upper : (value (top :: rest) : Int) ≥ ((capacity (rest.length + 1) : Int) + 1) / 2 ↔
      top.toNat.testBit 7 := by
    rw [← capacity_le_two_mul_value_iff top rest]
    omega
  rw [toNat_unsigned_of_short four, toInt_signed, Nat.min_eq_left four, List.length_cons,
    Int.bmod_eq_emod, fits, ← natCast_capacity, sub_sub_cancel]
  simp only [upper, Nat.cast_ite, Nat.cast_zero]

/-- Integers that are written on one to four bytes and read back, and bytes that are read and written
back. The bytes that are written are the last of the integer's four. The integer comes back as the one
of its residues that lies between the least and the greatest number of the width, so as itself just if
it lies there, and without a sign as its residue from zero on. Bytes come back as they were. With a sign
they are the sign extension of what they are without one, and that less the whole range of the width if
their top bit is set. The word that bytes are gathered in keeps the last four of a longer string. -/
theorem twosComplement_roundTrip :
    (∀ (width : Nat) (n : Int32), 1 ≤ width → width ≤ 4 →
      encodeSigned width n = (encodeSigned 4 n).drop (4 - width) ∧
      (∀ m : Int, (signed (encodeSigned width n)).toInt = m ↔
        -2 ^ (8 * width - 1) ≤ m ∧ m < 2 ^ (8 * width - 1) ∧ m ≡ n.toInt [ZMOD 2 ^ (8 * width)]) ∧
      (signed (encodeSigned width n) = n ↔
        -2 ^ (8 * width - 1) ≤ n.toInt ∧ n.toInt < 2 ^ (8 * width - 1)) ∧
      ((unsigned (encodeSigned width n)).toNat : Int) = n.toInt % 2 ^ (8 * width)) ∧
    (∀ (top : UInt8) (rest : Bytes), rest.length ≤ 3 →
      encodeSigned (rest.length + 1) (signed (top :: rest)) = top :: rest ∧
      signed (top :: rest) = signExtend (8 * (rest.length + 1)) (unsigned (top :: rest)) ∧
      ((unsigned (top :: rest)).toNat : Int) - (signed (top :: rest)).toInt =
        if top.toNat.testBit 7 then 2 ^ (8 * (rest.length + 1)) else 0) ∧
    ∀ bytes : Bytes,
      unsigned bytes = bytes.foldl (fun (word : UInt32) b => word <<< 8 ||| b.toUInt32) 0 ∧
      unsigned bytes = unsigned (bytes.drop (bytes.length - 4)) := by
  refine ⟨fun width n pos four => ?_, fun top rest short => ?_, fun bytes => ?_⟩
  · have whole : min width 4 = width := Nat.min_eq_left four
    have read : (signed (encodeSigned width n)).toInt = n.toInt.bmod (capacity width) := by
      rw [toInt_signed_encodeSigned, whole]
    refine ⟨?_, fun m => by rw [read, bmod_capacity_eq_iff pos], ?_, ?_⟩
    · rw [encodeSigned_eq_drop, whole]
    · rw [← Int32.toInt_inj, read, bmod_capacity_eq_iff pos]
      exact and_congr_right fun _ => and_iff_left (Int.ModEq.refl n.toInt)
    · rw [toNat_unsigned_encodeSigned, whole, natCast_capacity]
  · have four : rest.length + 1 ≤ 4 := Nat.succ_le_succ short
    exact ⟨encodeSigned_signed rfl four, signed_eq_signExtend (List.cons_ne_nil top rest),
      toNat_unsigned_sub_toInt_signed top short⟩
  · exact ⟨unsigned_eq_foldl bytes, (unsigned_drop bytes).symm⟩

/-- The first number that three bytes cannot hold comes back as the least one that they can. -/
theorem twosComplement_roundTrip_least :
    (signed (encodeSigned 3 8388608)).toInt = -8388608 ∧
      signed (encodeSigned 3 8388608) ≠ 8388608 ∧
      ((unsigned (encodeSigned 3 8388608)).toNat : Int) = 8388608 ∧
      encodeSigned 3 (signed [0x80, 0x00, 0x00]) = [0x80, 0x00, 0x00] ∧
      ((unsigned [0x80, 0x00, 0x00]).toNat : Int) - (signed [0x80, 0x00, 0x00]).toInt = 2 ^ 24 ∧
      unsigned [0x2A, 0x80, 0x00, 0x00, 0x01] = unsigned [0x80, 0x00, 0x00, 0x01] := by
  obtain ⟨written, read, long⟩ := twosComplement_roundTrip
  obtain ⟨-, residue, same, natural⟩ := written 3 8388608 (by decide) (by decide)
  obtain ⟨back, -, apart⟩ := read 0x80 [0x00, 0x00] (by decide)
  refine ⟨(residue _).mpr (by decide), fun kept => ?_, natural, back, apart, (long _).2⟩
  exact absurd (same.mp kept) (by decide)

end FareTerminal.BigEndian
