import FareTerminal.Bytes.BigEndian

/-! Reading back the numbers that are written on fewer bytes than they have, and writing those that were
read. What fits the width comes back as it was, with its sign, and bytes always come back. -/

namespace FareTerminal.BigEndian

theorem capacity_dvd_capacity {narrow wide : Nat} (le : narrow ≤ wide) :
    capacity narrow ∣ capacity wide := by
  induction le with
  | refl => exact Nat.dvd_refl _
  | step _ ih => exact Nat.dvd_mul_left_of_dvd ih 256

theorem toInt_eq_bmod (n : Int32) : n.toInt = (n.toUInt32.toNat : Int).bmod (capacity 4) :=
  n.toBitVec.toInt_eq_toNat_bmod

/-- Writing and reading keep the integer modulo what the width can hold. -/
theorem signed_encodeSigned (width : Nat) (n : Int32) :
    signed (encodeSigned width n) = Int32.ofInt (n.toInt.bmod (capacity (min width 4))) := by
  have four : min (min width 4) 4 = min width 4 := Nat.min_eq_left (Nat.min_le_right width 4)
  have divides : capacity (min width 4) ∣ capacity 4 :=
    capacity_dvd_capacity (Nat.min_le_right width 4)
  rw [signed, length_encodeSigned, four, encodeSigned, value_encode, Int.natCast_emod,
    Int.emod_bmod, toInt_eq_bmod, Int.bmod_bmod_of_dvd divides]

theorem signed_encodeSigned_of_fits {width : Nat} {n : Int32}
    (least : -((capacity (min width 4) : Int) / 2) ≤ n.toInt)
    (most : n.toInt < ((capacity (min width 4) : Int) + 1) / 2) :
    signed (encodeSigned width n) = n := by
  rw [signed_encodeSigned, Int.bmod_eq_of_le least most, Int32.ofInt_toInt]

theorem unsigned_encode_of_fits {width : Nat} {n : UInt32} (fits : n.toNat < capacity width) :
    unsigned (encode width n.toNat) = n := by
  rw [unsigned, value_encode, Nat.mod_eq_of_lt fits, UInt32.ofNat_toNat]

theorem toNat_toUInt32_ofInt (n : Int) :
    ((Int32.ofInt n).toUInt32.toNat : Int) = n % (capacity 4 : Int) := by
  have nonneg : 0 ≤ n % (capacity 4 : Int) := Int.emod_nonneg n (by decide)
  have bits : (Int32.ofInt n).toUInt32.toNat = (n % (capacity 4 : Int)).toNat :=
    BitVec.toNat_ofInt (n := 32) n
  rw [bits, Int.toNat_of_nonneg nonneg]

/-- The bytes of a word that holds an integer are those of the integer itself. -/
theorem ofNat_toUInt32_div (n : Int32) (unit : Nat) (small : unit = 1 ∨ unit = 256 ∨ unit = 65536) :
    UInt8.ofNat (n.toUInt32.toNat / unit) = UInt8.ofInt (n.toInt / unit) := by
  have word : (n.toUInt32.toNat : Int) = n.toInt % 4294967296 := by
    have kept := toNat_toUInt32_ofInt n.toInt
    rwa [Int32.ofInt_toInt] at kept
  apply UInt8.toNat_inj.mp
  rw [UInt8.ofInt, UInt8.toNat_ofNat', UInt8.toNat_ofNat']
  obtain rfl | rfl | rfl := small <;> omega

theorem encodeSigned_two (n : Int32) :
    encodeSigned 2 n = [UInt8.ofInt (n.toInt / 256), UInt8.ofInt n.toInt] := by
  have high := ofNat_toUInt32_div n 256 (by decide)
  have low := ofNat_toUInt32_div n 1 (by decide)
  rw [Nat.div_one, Int.natCast_one, Int.ediv_one] at low
  change [UInt8.ofNat _, UInt8.ofNat _] = _
  rw [high, low]
  rfl

theorem encodeSigned_three (n : Int32) :
    encodeSigned 3 n =
      [UInt8.ofInt (n.toInt / 65536), UInt8.ofInt (n.toInt / 256), UInt8.ofInt n.toInt] := by
  have high := ofNat_toUInt32_div n 65536 (by decide)
  have low := encodeSigned_two n
  have split : encodeSigned 3 n = UInt8.ofNat (n.toUInt32.toNat / 256 / 256) :: encodeSigned 2 n := rfl
  rw [split, Nat.div_div_eq_div_mul, high, low]
  rfl

theorem encode_unsigned {width : Nat} {bytes : Bytes} (length : bytes.length = width)
    (four : width ≤ 4) : encode width (unsigned bytes).toNat = bytes := by
  subst length
  have kept : (unsigned bytes).toNat % capacity bytes.length =
      value bytes % capacity bytes.length :=
    Nat.mod_mod_of_dvd (value bytes) (capacity_dvd_capacity four)
  rw [← encode_mod_capacity, kept, encode_mod_capacity, encode_value]

theorem encodeSigned_signed {width : Nat} {bytes : Bytes} (length : bytes.length = width)
    (four : width ≤ 4) : encodeSigned width (signed bytes) = bytes := by
  subst length
  have whole : min bytes.length 4 = bytes.length := Nat.min_eq_left four
  have divides : (capacity bytes.length : Int) ∣ capacity 4 :=
    Int.natCast_dvd_natCast.mpr (capacity_dvd_capacity four)
  -- A negative number and what its bytes spell differ by a multiple of what the width can hold.
  have kept : (signed bytes).toUInt32.toNat % capacity bytes.length =
      value bytes % capacity bytes.length := by
    apply Int.natCast_inj.mp
    rw [signed, whole, Int.natCast_emod, toNat_toUInt32_ofInt, Int.emod_emod_of_dvd _ divides,
      Int.bmod_emod, Int.natCast_emod]
  rw [encodeSigned, whole, ← encode_mod_capacity, kept, encode_mod_capacity, encode_value]

end FareTerminal.BigEndian
