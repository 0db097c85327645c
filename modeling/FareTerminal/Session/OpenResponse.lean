import FareTerminal.Bytes
import FareTerminal.Card.Revision

/-! The data with which a card answers the opening of a session. -/

namespace FareTerminal.Session

/-- The key the card chose, whether the session before this one was ratified, and the record that
was read with the opening. -/
structure OpenResponse where
  kif : Option UInt8
  kvc : UInt8
  ratified : Bool
  record : Bytes
  deriving Repr, DecidableEq

namespace OpenResponse

/-- The length of a record on cards before revision 3. -/
def recordLength : Nat := 29

/-- Reads the layout before revision 3: key version, three bytes of counter, a random byte, the
record if one was read, and two more bytes if the last session was not ratified. Only the length
tells which parts there are. -/
def ofFixedLayout? : Bytes → Option OpenResponse
  | kvc :: _ :: _ :: _ :: _ :: rest =>
    if rest.length = 0 ∨ rest.length = recordLength then
      some { kif := none, kvc, ratified := true, record := rest }
    else if rest.length = 2 ∨ rest.length = recordLength + 2 then
      some { kif := none, kvc, ratified := false, record := rest.take (rest.length - 2) }
    else none
  | _ => none

/-- Reads the layout of revision 3: three bytes of counter, a random byte, a ratification byte that
is zero if the last session was ratified, key identifier and version, and the record behind its
length. -/
def ofPrefixedLayout? : Bytes → Option OpenResponse
  | _ :: _ :: _ :: _ :: ratification :: kif :: kvc :: length :: record =>
    if record.length = length.toNat then
      some { kif := some kif, kvc, ratified := ratification == 0, record }
    else none
  | _ => none

/-- Reads the layout of a card's revision. -/
def ofData? (revision : Card.Revision) (data : Bytes) : Option OpenResponse :=
  match revision with
  | .rev1 | .rev24 => ofFixedLayout? data
  | .rev31 | .rev31Clap | .rev32 => ofPrefixedLayout? data

/-- Writes the layout before revision 3. -/
def fixedLayout (kvc : UInt8) (counter : UInt8 × UInt8 × UInt8) (random : UInt8) (record : Bytes)
    (unratified : Option (UInt8 × UInt8)) : Bytes :=
  [kvc, counter.1, counter.2.1, counter.2.2, random] ++ record ++
    match unratified with
    | some (first, second) => [first, second]
    | none => []

/-- Writes the layout of revision 3; the length byte holds the low eight bits of the length. -/
def prefixedLayout (counter : UInt8 × UInt8 × UInt8) (random ratification kif kvc : UInt8)
    (record : Bytes) : Bytes :=
  [counter.1, counter.2.1, counter.2.2, random, ratification, kif, kvc, UInt8.ofNat record.length] ++
    record

/-- What is written in the layout of revision 3 is read back. -/
theorem ofPrefixedLayout?_prefixedLayout (counter : UInt8 × UInt8 × UInt8)
    (random ratification kif kvc : UInt8) {record : Bytes} (h : record.length ≤ 255) :
    ofPrefixedLayout? (prefixedLayout counter random ratification kif kvc record) =
      some { kif := some kif, kvc, ratified := ratification == 0, record } := by
  have length : (UInt8.ofNat record.length).toNat = record.length :=
    UInt8.toNat_ofNat_of_lt' (Nat.lt_succ_of_le h)
  simp only [prefixedLayout, ofPrefixedLayout?, List.cons_append, List.nil_append, length, if_true]

end OpenResponse

end FareTerminal.Session
