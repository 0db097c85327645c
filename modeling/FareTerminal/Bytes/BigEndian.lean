import FareTerminal.Bytes

/-! Numbers written most significant byte first. `value` reads a byte string of any length, `encode`
writes the low bytes of a number, and each undoes the other on numbers that fit (`value_encode`,
`encode_value`). The 32-bit readings `unsigned` and `signed` keep what fits into a word. -/

namespace FareTerminal.BigEndian

/-- The number that a byte string spells. -/
def value (bytes : Bytes) : Nat :=
  bytes.foldl (fun n b => 256 * n + b.toNat) 0

/-- How many numbers there are of so many bytes. -/
def capacity : Nat → Nat
  | 0 => 1
  | width + 1 => 256 * capacity width

theorem capacity_le_capacity {narrow wide : Nat} (h : narrow ≤ wide) :
    capacity narrow ≤ capacity wide := by
  induction h with
  | refl => exact Nat.le_refl _
  | step _ ih => exact Nat.le_trans ih (Nat.le_mul_of_pos_left _ (by decide))

theorem capacity_pos (width : Nat) : 0 < capacity width :=
  capacity_le_capacity (Nat.zero_le width)

/-- The low `width` bytes of a number. -/
def encode : Nat → Nat → Bytes
  | 0, _ => []
  | width + 1, n => encode width (n / 256) ++ [UInt8.ofNat n]

@[simp] theorem value_nil : value [] = 0 := rfl

@[simp] theorem value_append_singleton (bytes : Bytes) (b : UInt8) :
    value (bytes ++ [b]) = 256 * value bytes + b.toNat := by
  simp [value]

@[simp] theorem length_encode (width n : Nat) : (encode width n).length = width := by
  induction width generalizing n with
  | zero => rfl
  | succ width ih => simp [encode, ih]

/-- Writing keeps the number modulo what the width can hold. -/
theorem value_encode (width n : Nat) : value (encode width n) = n % capacity width := by
  induction width generalizing n with
  | zero => simp [encode, capacity, Nat.mod_one]
  | succ width ih =>
    have h : n % (256 * capacity width) = n % 256 + 256 * (n / 256 % capacity width) := Nat.mod_mul
    rw [encode, value_append_singleton, ih, capacity, h]
    simp [Nat.add_comm]

/-- Reading and writing on the same width gives the bytes back. -/
theorem encode_value (bytes : Bytes) : encode bytes.length (value bytes) = bytes := by
  rw [← List.reverse_reverse bytes]
  induction bytes.reverse with
  | nil => rfl
  | cons b rest ih =>
    have h : (256 * value rest.reverse + b.toNat) / 256 = value rest.reverse := by
      have := b.toNat_lt
      omega
    have low : UInt8.ofNat (256 * value rest.reverse + b.toNat) = b :=
      UInt8.toNat_inj.mp (by simp)
    rw [List.reverse_cons, value_append_singleton, List.length_append, List.length_singleton,
      encode, h, low, ih]

theorem value_lt_capacity (bytes : Bytes) : value bytes < capacity bytes.length := by
  have read := value_encode bytes.length (value bytes)
  rw [encode_value] at read
  rw [read]
  exact Nat.mod_lt _ (capacity_pos bytes.length)

/-- What the width cannot hold is not written. -/
theorem encode_mod_capacity (width n : Nat) :
    encode width (n % capacity width) = encode width n := by
  have read := encode_value (encode width n)
  rwa [length_encode, value_encode] at read

/-- The 32-bit word that a byte string spells; of a longer string the last four bytes remain. -/
def unsigned (bytes : Bytes) : UInt32 := UInt32.ofNat (value bytes)

/-- The integer that a byte string spells in two's complement on its own width, at most four
bytes wide. -/
def signed (bytes : Bytes) : Int32 :=
  Int32.ofInt ((value bytes : Int).bmod (capacity (min bytes.length 4)))

/-- The low bytes of a 32-bit integer in two's complement, at most four of them. -/
def encodeSigned (width : Nat) (n : Int32) : Bytes := encode (min width 4) n.toUInt32.toNat

def encode16 (n : UInt16) : Bytes := encode 2 n.toNat

def word16 (bytes : Bytes) : UInt16 := UInt16.ofNat (value bytes)

@[simp] theorem length_encodeSigned (width : Nat) (n : Int32) :
    (encodeSigned width n).length = min width 4 := length_encode _ _

@[simp] theorem length_encode16 (n : UInt16) : (encode16 n).length = 2 := length_encode _ _

@[simp] theorem word16_encode16 (n : UInt16) : word16 (encode16 n) = n := by
  have fits : n.toNat < capacity 2 := n.toNat_lt
  rw [word16, encode16, value_encode, Nat.mod_eq_of_lt fits, UInt16.ofNat_toNat]

theorem encode16_word16 {bytes : Bytes} (h : bytes.length = 2) : encode16 (word16 bytes) = bytes := by
  have bound : value bytes < capacity 2 := h ▸ value_lt_capacity bytes
  rw [encode16, word16, UInt16.toNat_ofNat_of_lt' bound, ← h, encode_value]

example : signed [0xFF, 0xFF, 0xFF] = -1 := by decide
example : signed [0x80, 0x00, 0x00] = -8388608 := by decide
example : encodeSigned 2 300 = [0x01, 0x2C] := by decide

end FareTerminal.BigEndian
