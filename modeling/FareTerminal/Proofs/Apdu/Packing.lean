import FareTerminal.Apdu.CardCommand

/-! How the fields of a command are packed into its bytes, and found in them again: five bits above
three in P1 and P2, and the data behind its length. -/

namespace FareTerminal

/-- Five bits and three share a byte without touching. -/
theorem toNat_shiftLeft_three_or {high low : UInt8} (five : high ≤ 31) (three : low < 8) :
    (high <<< 3 ||| low).toNat = 8 * high.toNat + low.toNat := by
  have five : high.toNat ≤ 31 := five
  have three : low.toNat < 8 := three
  have shifted : (high <<< 3).toNat = high.toNat <<< 3 := by
    rw [UInt8.toNat_shiftLeft, Nat.shiftLeft_eq, Nat.shiftLeft_eq]
    exact Nat.mod_eq_of_lt (by change high.toNat * 8 < 256; omega)
  rw [UInt8.toNat_or, shifted, ← Nat.shiftLeft_add_eq_or_of_lt three, Nat.shiftLeft_eq]
  omega

theorem shiftLeft_three_or_shiftRight {high low : UInt8} (five : high ≤ 31) (three : low < 8) :
    (high <<< 3 ||| low) >>> 3 = high := by
  apply UInt8.toNat_inj.mp
  have packed := toNat_shiftLeft_three_or five three
  have three : low.toNat < 8 := three
  rw [UInt8.toNat_shiftRight, Nat.shiftRight_eq_div_pow, packed]
  change (8 * high.toNat + low.toNat) / 8 = high.toNat
  omega

theorem shiftLeft_three_shiftRight {high : UInt8} (five : high ≤ 31) : (high <<< 3) >>> 3 = high := by
  have packed := shiftLeft_three_or_shiftRight five (by decide : (0 : UInt8) < 8)
  simpa using packed

theorem shiftLeft_three_or_mod {high low : UInt8} (five : high ≤ 31) (three : low < 8) :
    (high <<< 3 ||| low) % 8 = low := by
  apply UInt8.toNat_inj.mp
  have packed := toNat_shiftLeft_three_or five three
  have three : low.toNat < 8 := three
  rw [UInt8.toNat_mod, packed]
  change (8 * high.toNat + low.toNat) % 8 = low.toNat
  omega

/-- A flag in the top bit takes the place of whatever stood there. -/
theorem toNat_top_or (b : UInt8) : (0x80 ||| b).toNat = 128 + b.toNat % 128 := by
  have low : b.toNat % 128 < 128 := Nat.mod_lt _ (by decide)
  have flagged : 128 ||| b.toNat % 128 = 128 + b.toNat % 128 :=
    (Nat.shiftLeft_add_eq_or_of_lt (i := 7) low 1).symm
  rw [UInt8.toNat_or, ← flagged]
  change 128 ||| b.toNat = 128 ||| b.toNat % 128
  rcases Nat.lt_or_ge b.toNat 128 with small | large
  · rw [Nat.mod_eq_of_lt small]
  · have split : b.toNat = 128 ||| b.toNat % 128 := by
      have := b.toNat_lt
      omega
    calc 128 ||| b.toNat = 128 ||| (128 ||| b.toNat % 128) := by rw [← split]
      _ = 128 ||| b.toNat % 128 := by rw [← Nat.or_assoc, Nat.or_self]

namespace Apdu.Command

@[simp] theorem tail_dataField (data : Bytes) : (dataField data).tail = data := by
  cases data <;> rfl

/-- Commands that expect the same length can be told apart by their bytes, however long their data. -/
theorem toBytes_inj_of_le_eq {command other : Command} (same : command.le = other.le) :
    command.toBytes = other.toBytes ↔ command = other := by
  refine ⟨fun bytes => ?_, congrArg toBytes⟩
  obtain ⟨cla, ins, p1, p2, data, le⟩ := command
  obtain ⟨cla', ins', p1', p2', data', le'⟩ := other
  obtain rfl : le = le' := same
  simp only [toBytes, List.cons_append, List.nil_append, List.cons.injEq] at bytes
  obtain ⟨rfl, rfl, rfl, rfl, fields⟩ := bytes
  have field : dataField data = dataField data' := List.append_cancel_right fields
  have data : data = data' := by rw [← tail_dataField data, field, tail_dataField]
  rw [data]

end Apdu.Command

end FareTerminal
