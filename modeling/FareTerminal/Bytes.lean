/-! Byte strings, and bytes in hexadecimal: written in upper case, read in either. -/

namespace FareTerminal

/-- A string of bytes, as cards and security modules exchange them. -/
abbrev Bytes := List UInt8

end FareTerminal

namespace FareTerminal.Hex

/-- The upper-case hexadecimal digit of a number below sixteen. -/
def digit (n : Nat) : Char :=
  if n < 10 then Char.ofNat ('0'.toNat + n) else Char.ofNat ('A'.toNat + (n - 10))

/-- The value of a hexadecimal digit of either case. -/
def digit? (c : Char) : Option Nat :=
  if '0' ≤ c ∧ c ≤ '9' then some (c.toNat - '0'.toNat)
  else if 'A' ≤ c ∧ c ≤ 'F' then some (c.toNat - 'A'.toNat + 10)
  else if 'a' ≤ c ∧ c ≤ 'f' then some (c.toNat - 'a'.toNat + 10)
  else none

def byteDigits (b : UInt8) : List Char := [digit (b.toNat / 16), digit (b.toNat % 16)]

/-- The digits of a byte string, two to a byte. -/
def digits (bytes : Bytes) : List Char := bytes.flatMap byteDigits

/-- A byte string in upper-case hexadecimal. -/
def encode (bytes : Bytes) : String := String.ofList (digits bytes)

/-- Reads digits in pairs; refuses an odd number of digits and whatever is not a digit. -/
def ofDigits? : List Char → Option Bytes
  | [] => some []
  | [_] => none
  | high :: low :: rest => do
    let h ← digit? high
    let l ← digit? low
    let bytes ← ofDigits? rest
    return UInt8.ofNat (16 * h + l) :: bytes

def decode? (text : String) : Option Bytes := ofDigits? text.toList

@[simp] theorem digits_nil : digits [] = [] := rfl

@[simp] theorem digits_cons (b : UInt8) (bytes : Bytes) :
    digits (b :: bytes) = digit (b.toNat / 16) :: digit (b.toNat % 16) :: digits bytes := rfl

theorem digit?_digit {n : Nat} (h : n < 16) : digit? (digit n) = some n := by
  have : ∀ n < 16, digit? (digit n) = some n := by decide
  exact this n h

theorem ofDigits?_digits (bytes : Bytes) : ofDigits? (digits bytes) = some bytes := by
  induction bytes with
  | nil => rfl
  | cons b bytes ih =>
    have hb := b.toNat_lt
    rw [digits_cons, ofDigits?, digit?_digit (by omega), digit?_digit (by omega), ih]
    have : UInt8.ofNat (16 * (b.toNat / 16) + b.toNat % 16) = b := by
      rw [Nat.div_add_mod, UInt8.ofNat_toNat]
    simp only [Option.bind_eq_bind, Option.bind_some, this, Option.pure_def]

/-- Reading gives back what was written. -/
theorem decode?_encode (bytes : Bytes) : decode? (encode bytes) = some bytes := by
  simp [decode?, encode, ofDigits?_digits]

def word16 (n : UInt16) : String :=
  encode [UInt8.ofNat (n.toNat / 256), UInt8.ofNat n.toNat]

end FareTerminal.Hex
