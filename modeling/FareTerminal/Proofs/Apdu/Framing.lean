import FareTerminal.Apdu.Command

/-! How a receiver tells the data of a command from the rest of its bytes. The length byte says
where the data ends, so it has to hold the whole length: of longer data only a part is found, and
the bytes are no command at all for whoever looks at all of them. -/

namespace FareTerminal.Apdu.Command

/-- No length byte tells of data this long, for it would have to stand for 256 bytes less. -/
theorem body?_dataField_append_of_long {data : Bytes} (long : 255 < data.length)
    (le : Option UInt8) : body? (dataField data ++ le.toList) = none := by
  cases data with
  | nil => simp at long
  | cons b rest =>
    rw [dataField_cons]
    have long : 255 ≤ rest.length := by simpa using Nat.le_of_lt_succ long
    have length : (UInt8.ofNat (rest.length + 1)).toNat = (rest.length + 1) % 256 := rfl
    generalize UInt8.ofNat (rest.length + 1) = lc at length
    -- Behind what the length byte tells of 256 bytes or more are left, but one `Le` at most is due.
    have small : lc.toNat ≤ rest.length ∧ lc.toNat + 256 ≤ rest.length + 1 := by omega
    cases le <;> simp only [body?, List.cons_append, Option.toList_none, Option.toList_some,
      List.append_nil, List.length_cons, List.length_append, List.length_nil] <;> split
    · rfl
    · rw [if_neg (by omega), if_neg (by omega)]
    · rfl
    · rw [if_neg (by omega), if_neg (by omega)]

/-- The bytes of a command are read as that command if its data fits, and else as none. -/
theorem ofBytes?_toBytes_eq (command : Command) :
    ofBytes? command.toBytes = if command.Fits then some command else none := by
  by_cases fits : command.Fits
  · rw [if_pos fits, ofBytes?_toBytes fits]
  · rw [if_neg fits]
    obtain ⟨cla, ins, p1, p2, data, le⟩ := command
    have long : 255 < data.length := Nat.lt_of_not_le fits
    have body := body?_dataField_append_of_long long le
    simp [ofBytes?, toBytes, body]

/-- What the length byte delimits of the data behind it. -/
def delimited (data : Bytes) : Bytes := data.take (data.length % 256)

/-- The data that a receiver finds in the bytes of a command by their length byte. -/
def delimitedData : Bytes → Bytes
  | _ :: _ :: _ :: _ :: lc :: rest => rest.take lc.toNat
  | _ => []

theorem delimited_eq_iff {data : Bytes} : delimited data = data ↔ data.length ≤ 255 := by
  constructor
  · intro whole
    have length := congrArg List.length whole
    rw [delimited, List.length_take] at length
    omega
  · intro short
    rw [delimited, Nat.mod_eq_of_lt (Nat.lt_succ_of_le short), List.take_length]

theorem delimitedData_toBytes (command : Command) :
    delimitedData command.toBytes = delimited command.data := by
  obtain ⟨cla, ins, p1, p2, data, le⟩ := command
  cases data with
  | nil => cases le <;> simp [toBytes, delimitedData, delimited]
  | cons b rest =>
    have within : (rest.length + 1) % 256 ≤ (b :: rest).length := Nat.mod_le _ _
    have cut : ((b :: rest) ++ le.toList).take _ = _ := List.take_append_of_le_length within
    simpa [toBytes, delimitedData, delimited] using cut

theorem delimitedData_toBytes_eq_iff {command : Command} :
    delimitedData command.toBytes = command.data ↔ command.Fits := by
  rw [delimitedData_toBytes, delimited_eq_iff]
  exact Iff.rfl

theorem length_delimited_le (data : Bytes) : (delimited data).length ≤ data.length := by
  rw [delimited, List.length_take]
  exact Nat.min_le_right _ _

/-- Put together, pieces of data are whole just if each is. -/
theorem flatten_map_delimited_eq_iff {parts : List Bytes} :
    (parts.map delimited).flatten = parts.flatten ↔ ∀ part ∈ parts, part.length ≤ 255 := by
  have shorter (parts : List Bytes) :
      (parts.map delimited).flatten.length ≤ parts.flatten.length := by
    induction parts with
    | nil => exact Nat.le_refl 0
    | cons part rest ih =>
      simp only [List.map_cons, List.flatten_cons, List.length_append]
      exact Nat.add_le_add (length_delimited_le part) ih
  induction parts with
  | nil => simp
  | cons part rest ih =>
    rw [List.forall_mem_cons, List.map_cons, List.flatten_cons, List.flatten_cons]
    refine Iff.trans ?_ (and_congr delimited_eq_iff ih)
    constructor
    · intro whole
      have length := congrArg List.length whole
      have first := length_delimited_le part
      have others := shorter rest
      rw [List.length_append, List.length_append] at length
      exact List.append_inj whole (by omega)
    · rintro ⟨first, others⟩
      rw [first, others]

end FareTerminal.Apdu.Command
