import FareTerminal.Bytes

/-! Commands and the bytes that are sent for them. `ofBytes?` reads the bytes of a command as a card
does; it finds the command again if the data is at most 255 bytes long (`ofBytes?_toBytes`). -/

namespace FareTerminal.Apdu

/-- A command: four header bytes, data, and how much data is expected back. -/
structure Command where
  cla : UInt8
  ins : UInt8
  p1 : UInt8
  p2 : UInt8
  data : Bytes := []
  le : Option UInt8 := none
  deriving Repr, DecidableEq

namespace Command

/-- The length of the data. -/
def lc (command : Command) : Nat := command.data.length

/-- The data behind a byte with its length; no data leaves no trace. The length byte holds the low
eight bits of the length. -/
def dataField (data : Bytes) : Bytes :=
  if data.isEmpty then [] else UInt8.ofNat data.length :: data

def toBytes (command : Command) : Bytes :=
  [command.cla, command.ins, command.p1, command.p2] ++ dataField command.data ++
    command.le.toList

/-- Whether the length of the data has room in its byte. -/
def Fits (command : Command) : Prop := command.data.length ≤ 255

instance (command : Command) : Decidable command.Fits := by unfold Fits; infer_instance

/-- Reads what stands behind the header: nothing, the expected length alone, or data behind its
length with or without the expected length at the end. -/
def body? : Bytes → Option (Bytes × Option UInt8)
  | [] => some ([], none)
  | [le] => some ([], some le)
  | lc :: rest =>
    if lc = 0 then none
    else if rest.length = lc.toNat then some (rest, none)
    else if rest.length = lc.toNat + 1 then some (rest.take lc.toNat, rest[lc.toNat]?)
    else none

def ofBytes? : Bytes → Option Command
  | cla :: ins :: p1 :: p2 :: rest =>
    (body? rest).map fun (data, le) => { cla, ins, p1, p2, data, le }
  | _ => none

@[simp] theorem dataField_nil : dataField [] = [] := rfl

@[simp] theorem dataField_cons (b : UInt8) (data : Bytes) :
    dataField (b :: data) = UInt8.ofNat (data.length + 1) :: b :: data := rfl

theorem body?_dataField_append {data : Bytes} (h : data.length ≤ 255) (le : Option UInt8) :
    body? (dataField data ++ le.toList) = some (data, le) := by
  cases data with
  | nil => cases le <;> rfl
  | cons b rest =>
    rw [dataField_cons]
    have length : (UInt8.ofNat (rest.length + 1)).toNat = rest.length + 1 :=
      UInt8.toNat_ofNat_of_lt' (Nat.lt_succ_of_le h)
    generalize UInt8.ofNat (rest.length + 1) = lc at length
    have positive : lc ≠ 0 := by
      rintro rfl
      exact absurd length (by simp)
    cases le <;> simp [body?, positive, length]

/-- A command is found again in its bytes. -/
theorem ofBytes?_toBytes {command : Command} (h : command.Fits) :
    ofBytes? command.toBytes = some command := by
  obtain ⟨cla, ins, p1, p2, data, le⟩ := command
  have body : body? (dataField data ++ le.toList) = some (data, le) := body?_dataField_append h le
  simp [ofBytes?, toBytes, body]

end Command

end FareTerminal.Apdu
