import FareTerminal.Bytes

/-! Records as a card returns several of them: number, length and data, one after the other. -/

namespace FareTerminal.Session

/-- A record number and the record's data. -/
abbrev Record := UInt8 × Bytes

namespace Records

/-- Reads records to the end of the data; a record that is cut off makes all of it unreadable. -/
def decode? : Bytes → Option (List Record)
  | [] => some []
  | [_] => none
  | number :: length :: rest =>
    if rest.length < length.toNat then none
    else (decode? (rest.drop length.toNat)).map ((number, rest.take length.toNat) :: ·)
termination_by data => data.length
decreasing_by simp only [List.length_drop, List.length_cons]; omega

/-- Writes records; the length byte holds the low eight bits of the length. -/
def encode (records : List Record) : Bytes :=
  records.flatMap fun (number, data) => number :: UInt8.ofNat data.length :: data

@[simp] theorem encode_nil : encode [] = [] := rfl

@[simp] theorem encode_cons (number : UInt8) (data : Bytes) (records : List Record) :
    encode ((number, data) :: records) =
      number :: UInt8.ofNat data.length :: (data ++ encode records) := rfl

end Records

end FareTerminal.Session
