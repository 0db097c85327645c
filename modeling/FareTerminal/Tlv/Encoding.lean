import FareTerminal.Tlv

/-! Writing data objects. A length may be written in more than one way; `takeObject?_toBytes_append`
says that reading undoes each of them. -/

namespace FareTerminal.Tlv

/-- How a length is written: in one byte, or in a number of bytes behind one that counts them. -/
inductive LengthForm where
  | short
  | long (count : Nat)
  deriving Repr, DecidableEq

namespace LengthForm

/-- Whether a length can be written so. Leading zeros are allowed. -/
def Fits (length : Nat) : LengthForm → Prop
  | short => length < 128
  | long count => 1 ≤ count ∧ count ≤ 8 ∧ length < BigEndian.capacity count

instance (length : Nat) (form : LengthForm) : Decidable (form.Fits length) := by
  cases form <;> unfold Fits <;> infer_instance

def encode (length : Nat) : LengthForm → Bytes
  | short => [UInt8.ofNat length]
  | long count => UInt8.ofNat (128 + count) :: BigEndian.encode count length

end LengthForm

/-- Whether bytes are one tag: the first of them says how many there are. -/
def IsTag : Bytes → Prop
  | [] => False
  | first :: rest => (first :: rest).length = tagLength first

instance (tag : Bytes) : Decidable (IsTag tag) := by
  cases tag <;> unfold IsTag <;> infer_instance

/-- A data object and the form of its length. -/
structure Object where
  tag : Bytes
  form : LengthForm
  value : Bytes
  deriving Repr, DecidableEq

namespace Object

/-- Whether the tag is one and the form has room for the length. -/
def Valid (object : Object) : Prop := IsTag object.tag ∧ object.form.Fits object.value.length

instance (object : Object) : Decidable object.Valid := by unfold Valid; infer_instance

def toBytes (object : Object) : Bytes :=
  object.tag ++ (object.form.encode object.value.length ++ object.value)

end Object

/-- The bytes of objects, one after the other. -/
def encode (objects : List Object) : Bytes := objects.flatMap Object.toBytes

@[simp] theorem encode_nil : encode [] = [] := rfl

@[simp] theorem encode_cons (object : Object) (objects : List Object) :
    encode (object :: objects) = object.toBytes ++ encode objects := rfl

theorem takeLength?_short {length : Nat} (h : length < 128) (rest : Bytes) :
    takeLength? (LengthForm.short.encode length ++ rest) = some (length, rest) := by
  have small : UInt8.ofNat length < 0x80 := by
    have size : length < UInt8.size := Nat.lt_trans h (by decide)
    rw [UInt8.lt_iff_toNat_lt, UInt8.toNat_ofNat_of_lt' size]
    exact h
  simp [LengthForm.encode, takeLength?, small, Nat.mod_eq_of_lt (by omega : length < 256)]

theorem takeLength?_long {count length : Nat} (positive : 1 ≤ count) (most : count ≤ 8)
    (h : length < BigEndian.capacity count) (rest : Bytes) :
    takeLength? ((LengthForm.long count).encode length ++ rest) = some (length, rest) := by
  have large : ¬ UInt8.ofNat (128 + count) < 0x80 := by
    have size : 128 + count < UInt8.size := Nat.lt_of_le_of_lt (by omega : _ ≤ 136) (by decide)
    rw [UInt8.lt_iff_toNat_lt, UInt8.toNat_ofNat_of_lt' size]
    exact Nat.not_lt.mpr (Nat.le_add_right 128 count)
  have low : (UInt8.ofNat (128 + count) &&& 0x7F).toNat = count := by
    have table : ∀ count : Fin 9, (UInt8.ofNat (128 + count.val) &&& 0x7F).toNat = count.val := by
      decide
    exact table ⟨count, by omega⟩
  have word : BigEndian.capacity count ≤ UInt64.size := BigEndian.capacity_le_capacity most
  have taken : (BigEndian.encode count length ++ rest).take count = BigEndian.encode count length := by
    rw [List.take_append_of_le_length (by simp), List.take_of_length_le (by simp)]
  have dropped : (BigEndian.encode count length ++ rest).drop count = rest := by
    rw [List.drop_append_of_le_length (by simp), List.drop_of_length_le (by simp), List.nil_append]
  have room : ¬ (BigEndian.encode count length ++ rest).length < count := by simp
  simp only [LengthForm.encode, List.cons_append, takeLength?, large, low, room, taken, dropped,
    if_false, BigEndian.value_encode, Nat.mod_eq_of_lt h, Nat.mod_eq_of_lt (Nat.lt_of_lt_of_le h word)]

/-- The length field is read back in any form that fits. -/
theorem takeLength?_encode_append {length : Nat} {form : LengthForm} (h : form.Fits length)
    (rest : Bytes) : takeLength? (form.encode length ++ rest) = some (length, rest) := by
  cases form with
  | short => exact takeLength?_short h rest
  | long count => exact takeLength?_long h.1 h.2.1 h.2.2 rest

/-- Behind a tag, the value is as long as the length field is read to say. -/
theorem takeObject?_append {tag field value : Bytes} (isTag : IsTag tag) {rest : Bytes}
    (read : takeLength? (field ++ (value ++ rest)) = some (value.length, value ++ rest)) :
    takeObject? (tag ++ (field ++ (value ++ rest))) = some (tag, value, rest) := by
  cases tag with
  | nil => exact isTag.elim
  | cons first more =>
    have width : (first :: more).length = tagLength first := isTag
    have taken : (first :: (more ++ (field ++ (value ++ rest)))).take (tagLength first) =
        first :: more := by
      rw [← width, ← List.cons_append, List.take_append_of_le_length (Nat.le_refl _),
        List.take_length]
    have dropped : (first :: (more ++ (field ++ (value ++ rest)))).drop (tagLength first) =
        field ++ (value ++ rest) := by
      rw [← width, ← List.cons_append, List.drop_append_of_le_length (Nat.le_refl _),
        List.drop_length, List.nil_append]
    have room : ¬ (first :: (more ++ (field ++ (value ++ rest)))).length < tagLength first := by
      rw [← width, ← List.cons_append, List.length_append]
      omega
    rw [List.cons_append]
    simp only [takeObject?, room, if_false, taken, dropped, read, Option.bind_eq_bind,
      Option.bind_some, List.length_append]
    rw [if_neg (by omega), List.take_append_of_le_length (Nat.le_refl _), List.take_length,
      List.drop_append_of_le_length (Nat.le_refl _), List.drop_length, List.nil_append]

/-- A valid object is read back, whatever follows it. -/
theorem takeObject?_toBytes_append {object : Object} (h : object.Valid) (rest : Bytes) :
    takeObject? (object.toBytes ++ rest) = some (object.tag, object.value, rest) := by
  rw [Object.toBytes, List.append_assoc, List.append_assoc]
  exact takeObject?_append h.1 (takeLength?_encode_append h.2 _)

end FareTerminal.Tlv
